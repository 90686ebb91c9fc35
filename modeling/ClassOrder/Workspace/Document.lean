import ClassOrder.Files.Path

/-!
# Documents

The documents that a session shows to its server: the configuration and the stylesheet of the
workspace, and a virtual document that stands for the file in which classes are sorted.

## Main definitions

* `virtualDocument` — the virtual document with given classes.
* `languageId` — the language of a document, told by its name.
* `configText`, `stylesheetText` — the documents of a workspace without a project.
-/

namespace ClassOrder

/-- The comment inside the virtual document. -/
def documentComment : String := "<!-- virtual document for processing tailwind classes -->"

/-- The virtual document before any classes are sorted. -/
def emptyDocument : String := "<div>" ++ documentComment ++ "</div>"

/-- The virtual document with given classes. -/
def virtualDocument (classes : String) : String :=
  "<div class=\"" ++ classes ++ "\">" ++ documentComment ++ "</div>"

/-- The language of a document, told by its name. -/
def languageId (p : Path) : String :=
  if p.extension = ".ts" then "typescript"
  else if p.extension = ".css" then "css"
  else if p.extension = ".html" then "html"
  else "javascript"

/-- The name of the virtual document. -/
def documentName : String := "virtual.html"

/-- The name of the configuration of a workspace without a project. -/
def configName : String := "tailwind.config.js"

/-- The name of the stylesheet of a workspace without a project. -/
def stylesheetName : String := "styles.css"

/-- The configuration of a workspace without a project. -/
def configText : String :=
  "module.exports = \x7b\n  content: ['*.html'],\n  theme: \x7b\n    extend: \x7b\x7d,\n  \x7d,\n" ++
    "  plugins: [],\n\x7d\n"

/-- The stylesheet of a workspace without a project. -/
def stylesheetText : String := "@tailwind base;\n@tailwind components;\n@tailwind utilities;\n"

end ClassOrder
