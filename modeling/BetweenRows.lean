import BetweenRows.Graph.Reach
import BetweenRows.Graph.Bfs
import BetweenRows.Graph.BfsDepth
import BetweenRows.Loop.Fold
import BetweenRows.Control.Except
import BetweenRows.DataFusion.Plan
import BetweenRows.Rbac.RoleResolver
import BetweenRows.Admin.Dto
import BetweenRows.Admin.RoleHandlers
import BetweenRows.Policy.Match
import BetweenRows.Policy.Session
import BetweenRows.Policy.Effects
import BetweenRows.Engine.Visibility
import BetweenRows.Policy.Rewrite
import BetweenRows.Admin.PolicyHandlers
import BetweenRows.Admin.PolicyConcurrency
import BetweenRows.Proxy.Handler
import BetweenRows.DataFusion.Exec
import BetweenRows.Proxy.Statements
import BetweenRows.Text.Decimal
import BetweenRows.Engine.ArrowType
import BetweenRows.DataFusion.Join
import BetweenRows.Resolution.Graph
import BetweenRows.Resolution.Plan
import BetweenRows.Policy.Metadata
import BetweenRows.Policy.Precedence
import BetweenRows.Admin.CatalogSync
import BetweenRows.Policy.Template
import BetweenRows.Admin.Attributes
import BetweenRows.Data.Assoc
import BetweenRows.Admin.Definitions
import BetweenRows.Policy.UserAttributes
import BetweenRows.Admin.Relationships
import BetweenRows.Admin.RoleWrites
import BetweenRows.Proxy.RoleSessions
