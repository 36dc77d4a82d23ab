import IrmaServer.Messages
import IrmaServer.Session.Data
import IrmaServer.Session.Helpers
import IrmaServer.Session.Invariants
import IrmaServer.Session.Callbacks
import IrmaServer.Session.Negotiation
import IrmaServer.Store.Memory
import IrmaServer.Store.Sweep
import IrmaServer.Store.Retention
import IrmaServer.Store.Redis
import IrmaServer.Store.RedisLock
import IrmaServer.Store.Lifetime
import IrmaServer.Middleware.Cache
import IrmaServer.Middleware.Chain
import IrmaServer.Json.Text
import IrmaServer.Json.Version
import IrmaServer.Json.Session
import IrmaServer.Store.RedisWire
import IrmaServer.Server.Memory
import IrmaServer.Session.Keyshare
import IrmaServer.Session.Validation
import IrmaServer.Json.RemoteError
import IrmaServer.Server.Redis
import IrmaServer.Session.Issuance
