import SuiLudka.Basic
import SuiLudka.Numeral
import SuiLudka.Args.Parse
import SuiLudka.Args.Grammar
import SuiLudka.Args.FakeId
import SuiLudka.Args.Concrete
import SuiLudka.Args.ConcreteSpec
import SuiLudka.Args.Resolve
import SuiLudka.Args.ResolveSpec
import SuiLudka.Indexer.ReadApi
import SuiLudka.Indexer.Pagination
import SuiLudka.Indexer.LivePages
import SuiLudka.Adapter.Backends
import SuiLudka.Adapter.Contract
import SuiLudka.Adapter.Scripts
import SuiLudka.Adapter.Interchange
import SuiLudka.Indexer.ReadServer
import SuiLudka.Analytics.PackageStore
import SuiLudka.Analytics.PackageCache
