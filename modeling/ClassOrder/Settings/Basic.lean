import ClassOrder.Fault

/-!
# Settings

What a session is told: the command of its server, where to look for the project, and how long
to wait for what.  Every number of seconds must be positive.

## Main definitions

* `GivenSettings` — the settings as they are given.
* `Settings` — the settings of a session.
* `GivenSettings.check` — the settings of a session, or what is wrong with those given.
-/

namespace ClassOrder

/-- The oldest server that is known to sort class lists. -/
def oldestServer : String := "0.0.27"

/-- The settings as they are given. -/
structure GivenSettings where
  /-- The command that launches the server, found on the system if it is not given. -/
  serverCommand : Option (List String) := none
  /-- Where the search for the project starts, the working directory if it is not given. -/
  startDir : Option String := none
  /-- The seconds for which a result is given out again. -/
  cacheTtl : Amount := .real 5.0
  /-- The seconds to wait for the response to a request. -/
  requestTimeout : Amount := .real 5.0
  /-- The seconds to wait for more of the server's output. -/
  readTimeout : Amount := .real 5.0
  /-- The seconds spent on the server's requests after the handshake. -/
  drainTimeout : Amount := .real 0.5
  /-- The seconds to wait for the server to end. -/
  shutdownTimeout : Amount := .real 2.0
  /-- The oldest server that gets no warning. -/
  minServerVersion : String := oldestServer
  /-- Whether every message is logged. -/
  debug : Bool := false
  /-- Variables for the server, on top of those of this process. -/
  environment : List (String × String) := []

/-- The settings of a session. -/
structure Settings (τ : Type) where
  /-- The command that launches the server, found on the system if it is not given. -/
  serverCommand : Option (List String)
  /-- Where the search for the project starts, the working directory if it is not given. -/
  startDir : Option String
  /-- How long a result is given out again. -/
  cacheTtl : τ
  /-- How long a request waits for its response. -/
  requestTimeout : τ
  /-- How long one read waits for more of the server's output. -/
  readTimeout : τ
  /-- How long the server's requests are answered after the handshake. -/
  drainTimeout : τ
  /-- How long the server may take to end. -/
  shutdownTimeout : τ
  /-- The oldest server that gets no warning. -/
  minServerVersion : String
  /-- Whether every message is logged. -/
  debug : Bool
  /-- Variables for the server, on top of those of this process. -/
  environment : List (String × String)

namespace GivenSettings

/-- The numbers of seconds, by name, in the order in which they are checked. -/
def amounts (g : GivenSettings) : List (String × Amount) :=
  [("cache_ttl", g.cacheTtl), ("request_timeout", g.requestTimeout),
    ("read_timeout", g.readTimeout), ("drain_timeout", g.drainTimeout),
    ("shutdown_timeout", g.shutdownTimeout)]

/-- What is wrong with the settings: the first number of seconds that is refused, or a command
without a word. -/
def fault? {τ : Type} (g : GivenSettings) : Option (Fault τ) :=
  match g.amounts.find? (·.2.isRefused) with
  | some (name, value) => some (.notPositive name value)
  | none => if g.serverCommand = some [] then some .emptyCommand else none

/-- The settings of a session, whatever is wrong with them. -/
def settled (g : GivenSettings) : Settings Amount where
  serverCommand := g.serverCommand
  startDir := g.startDir
  cacheTtl := g.cacheTtl
  requestTimeout := g.requestTimeout
  readTimeout := g.readTimeout
  drainTimeout := g.drainTimeout
  shutdownTimeout := g.shutdownTimeout
  minServerVersion := g.minServerVersion
  debug := g.debug
  environment := g.environment

/-- The settings of a session, or what is wrong with those given. -/
def check {τ : Type} (g : GivenSettings) : Except (Fault τ) (Settings Amount) :=
  match g.fault? with
  | some fault => .error fault
  | none => .ok g.settled

end GivenSettings

end ClassOrder
