/-!
# Methods

The names of the calls that the session makes and of the one that it answers.
-/

namespace ClassOrder.Method

/-- Opens the handshake. -/
def handshake : String := "initialize"

/-- Says that the answer to the handshake has arrived. -/
def ready : String := "initialized"

/-- Asks the server to end. -/
def exit : String := "exit"

/-- Tells the server the settings of the workspace. -/
def settingsChanged : String := "workspace/didChangeConfiguration"

/-- Asks the session for settings. -/
def configuration : String := "workspace/configuration"

/-- Opens a document. -/
def documentOpened : String := "textDocument/didOpen"

/-- Replaces the text of a document. -/
def documentChanged : String := "textDocument/didChange"

/-- Closes a document. -/
def documentClosed : String := "textDocument/didClose"

/-- Asks for class lists in the recommended order. -/
def sortSelection : String := "@/tailwindCSS/sortSelection"

/-- Asks which project the server has found. -/
def getProject : String := "@/tailwindCSS/getProject"

end ClassOrder.Method
