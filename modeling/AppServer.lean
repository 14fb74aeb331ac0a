import AppServer.Application.Basic
import AppServer.Application.Demo
import AppServer.Config.Error
import AppServer.Config.Flatten
import AppServer.Config.Ipv6
import AppServer.Config.Load
import AppServer.Config.Properties
import AppServer.Config.Settings
import AppServer.Decimal.Shortest
import AppServer.Decimal.Style
import AppServer.Environment
import AppServer.Event
import AppServer.EventSink
import AppServer.Files
import AppServer.Harness.Browser
import AppServer.Harness.Error
import AppServer.Harness.Faulty
import AppServer.Harness.Fixture
import AppServer.Harness.Server
import AppServer.Harness.Timeout
import AppServer.Http.Authenticity
import AppServer.Http.Cookie
import AppServer.Http.Form
import AppServer.Http.Handler
import AppServer.Http.Message
import AppServer.Http.Route
import AppServer.Http.Uri
import AppServer.Injector
import AppServer.Json.Basic
import AppServer.Json.Reader
import AppServer.Json.Writer
import AppServer.Mode
import AppServer.Network
import AppServer.Server.Basic
import AppServer.Server.Error
import AppServer.Session.Basic
import AppServer.Session.Entropy
import AppServer.Session.Realm
import AppServer.Session.Store
import AppServer.Template.Compile
import AppServer.Template.Engine
import AppServer.Template.Error
import AppServer.Template.Helper
import AppServer.Template.Journal
import AppServer.Template.Output
import AppServer.Template.Path
import AppServer.Template.Render
import AppServer.Template.Scope
import AppServer.Template.Tag
import AppServer.Template.Tree
import AppServer.Template.Value
import AppServer.Text.Base64
import AppServer.Text.Blank
import AppServer.Text.Bytes
import AppServer.Text.Cut
import AppServer.Text.Number
import AppServer.Toml.Datetime
import AppServer.Toml.Document
import AppServer.Toml.Scalar
import AppServer.Toml.Statement
import AppServer.Toml.Value
import AppServer.Url.Basic
import AppServer.Url.Domain
import AppServer.Url.Domain.Composition
import AppServer.Url.Domain.Direction
import AppServer.Url.Domain.Joining
import AppServer.Url.Domain.Mapping
import AppServer.Url.Domain.Ranges
import AppServer.Url.Escape
import AppServer.Url.Host
import AppServer.Url.Punycode
import AppServer.Proofs.Application.Demo
import AppServer.Proofs.Config.FailedWrites
import AppServer.Proofs.Config.Flatten
import AppServer.Proofs.Config.Keys
import AppServer.Proofs.Config.Layering
import AppServer.Proofs.Config.Merge
import AppServer.Proofs.Config.NormalForm
import AppServer.Proofs.Config.Port
import AppServer.Proofs.Config.ReadBack
import AppServer.Proofs.Config.Settings
import AppServer.Proofs.Config.Walk
import AppServer.Proofs.EventLog
import AppServer.Proofs.Except
import AppServer.Proofs.Files
import AppServer.Proofs.Files.Order
import AppServer.Proofs.Harness.Browsing
import AppServer.Proofs.Harness.Builder
import AppServer.Proofs.Harness.Closing
import AppServer.Proofs.Harness.CookieReading
import AppServer.Proofs.Harness.Crowd
import AppServer.Proofs.Harness.FixtureUrl
import AppServer.Proofs.Harness.Guests
import AppServer.Proofs.Harness.Isolation
import AppServer.Proofs.Harness.Jar
import AppServer.Proofs.Harness.Layout
import AppServer.Proofs.Harness.Teardown
import AppServer.Proofs.Harness.Timeout
import AppServer.Proofs.Http.Authenticity
import AppServer.Proofs.Http.ContextRoot
import AppServer.Proofs.Http.CookieHeader
import AppServer.Proofs.Http.Exchange
import AppServer.Proofs.Http.Forgery
import AppServer.Proofs.Http.Form
import AppServer.Proofs.Http.Header
import AppServer.Proofs.Http.Holdings
import AppServer.Proofs.Http.Nesting
import AppServer.Proofs.Http.RenderedToken
import AppServer.Proofs.Http.Routine
import AppServer.Proofs.Http.SessionCookie
import AppServer.Proofs.Http.SessionLayer
import AppServer.Proofs.Injector
import AppServer.Proofs.Json.Reading
import AppServer.Proofs.Mode
import AppServer.Proofs.Network
import AppServer.Proofs.Row
import AppServer.Proofs.Server.ContextPath
import AppServer.Proofs.Server.Insulation
import AppServer.Proofs.Server.Lifecycle
import AppServer.Proofs.Server.Port
import AppServer.Proofs.Server.Routes
import AppServer.Proofs.Server.Services
import AppServer.Proofs.Server.Start
import AppServer.Proofs.Session.History
import AppServer.Proofs.Session.Queue
import AppServer.Proofs.Session.Realm
import AppServer.Proofs.Session.Store
import AppServer.Proofs.Session.Token
import AppServer.Proofs.Session.TokenRun
import AppServer.Proofs.Template.Directory
import AppServer.Proofs.Template.Fragment
import AppServer.Proofs.Template.Journal
import AppServer.Proofs.Template.Telling
import AppServer.Proofs.Template.TokenReads
import AppServer.Proofs.Text.Ascii
import AppServer.Proofs.Text.ByteOrder
import AppServer.Proofs.Text.Cut
import AppServer.Proofs.Text.Number
import AppServer.Proofs.Text.Utf8
import AppServer.Proofs.Toml.Order
import AppServer.Proofs.Url.Base
import AppServer.Proofs.Url.Below
