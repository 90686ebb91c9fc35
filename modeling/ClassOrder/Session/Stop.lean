import ClassOrder.Session.Start

/-!
# Stopping a server

A server is stopped by telling it that the virtual document is closed and that it should end, and
is taken down whatever comes of that.  Stopping keeps the workspace; cleaning up takes it away as
well.

## Main definitions

* `Session.stop` — stops the server, if there is one to talk to.
* `Session.cleanup` — leaves nothing behind.
-/

namespace ClassOrder.Session

variable {τ : Type} [Timeline τ]

/-- What the server is told when the virtual document is closed. -/
def closedParams (uri : Json) : Json := .object [("textDocument", .object [("uri", uri)])]

/-- The last words to the server. -/
def farewell : Action (Session τ) τ Unit := do
  notify Method.documentClosed (closedParams (← get).documentUri)
  notify Method.exit (.object [])

/-- The last words to the server, which may have gone away. -/
def farewellOrGone : Action (Session τ) τ Unit :=
  tryCatch farewell fun fault => do
    if fault.kind.isProtocol then
      log ("Language server went away during shutdown: " ++ fault.message)
    else throw fault

/-- Stops the server, if there is one to talk to. -/
def stop : Action (Session τ) τ Unit := do
  if (← get).isRunning then
    log "Stopping language server"
    farewellOrGone.andThen (teardown true)

/-- Stops the server and takes the workspace away. -/
def cleanup : Action (Session τ) τ Unit := do
  stop
  abandon
  removeWorkspace
  forgetWorkspace

end ClassOrder.Session
