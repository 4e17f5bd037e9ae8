import IrisWeb.Go.Strings
import IrisWeb.Context.Store
import IrisWeb.Context.ResponseWriter
import IrisWeb.Context.Context
import IrisWeb.Context.Handler
import IrisWeb.Context.Wire
import IrisWeb.Context.Expiration
import IrisWeb.Context.Content
import IrisWeb.Context.Pool
import IrisWeb.Errors.Error
import IrisWeb.Errors.Reporter
import IrisWeb.Router.Model.Trie
import IrisWeb.Router.Model.Route
import IrisWeb.Router.Trie.Insert
import IrisWeb.Router.Trie.Path
import IrisWeb.Router.Trie.Order
import IrisWeb.Router.Trie.Search
import IrisWeb.Router.Trie.Shape
import IrisWeb.Router.Trie.Static
import IrisWeb.Router.Trie.Greedy
import IrisWeb.Router.Trie.Refinement
import IrisWeb.Router.Trie.Params
import IrisWeb.Router.Trie.Reverse
import IrisWeb.Router.CleanPath
import IrisWeb.Router.ExecutionRules
import IrisWeb.Router.Handler
import IrisWeb.Router.Status
import IrisWeb.Router.Router
import IrisWeb.Router.Reverser
import IrisWeb.Router.Director
import IrisWeb.Host.Supervisor
import IrisWeb.Host.Interrupt
import IrisWeb.Host.Serve
