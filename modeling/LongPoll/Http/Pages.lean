import LongPoll.Http.Api
import LongPoll.Http.Request
import LongPoll.Http.Response
/-!
# Pages

The documentation of the interface for people and programs, which stands beside the interface and
not under its path prefix.
-/

namespace LongPoll.Http.Pages

/-- The type of a file of the documentation, if there is such a file. -/
def fileType? (name : String) : Option String :=
  if ["index.html", "oauth2-redirect.html"].contains name then some "text/html"
  else if ["index.css", "swagger-ui.css"].contains name then some "text/css"
  else if ["favicon-16x16.png", "favicon-32x32.png"].contains name then some "image/png"
  else if scripts.contains name then some "text/javascript"
  else if sourceMaps.contains name then some "text/plain"
  else none
where
  /-- The scripts of the documentation. -/
  scripts : List String :=
    ["swagger-initializer.js", "swagger-ui-bundle.js", "swagger-ui-es-bundle-core.js",
      "swagger-ui-es-bundle.js", "swagger-ui-standalone-preset.js", "swagger-ui.js"]
  /-- The files that say which part of a script or style comes from where. -/
  sourceMaps : List String :=
    ["swagger-ui-bundle.js.map", "swagger-ui-es-bundle-core.js.map", "swagger-ui-es-bundle.js.map",
      "swagger-ui-standalone-preset.js.map", "swagger-ui.css.map", "swagger-ui.js.map"]

/-- The path of the documentation for people. -/
def root : String := "/swagger-ui"

/-- The path of the documentation for programs. -/
def documentPath : String := "/api-docs/openapi.json"

/-- The file of the documentation that a path names, if it is in the place of such files. -/
def fileName? (path : String) : Option String :=
  let place := (root ++ "/").toList
  if place.isPrefixOf path.toList then
    let octets := Text.unescape (String.ofList (path.toList.drop place.length)).toUTF8.toList
    some (Text.lossy ⟨octets.toArray⟩)
  else none

/-- What stands in a file of the documentation. -/
def fileText (name : String) : String := title ++ ": " ++ name
where
  /-- The title of the documentation. -/
  title : String := Api.title

/-- The response for a file of the documentation. The file without a name is the index. -/
def fileResponse (name : String) : Response :=
  let name := if name.isEmpty || name == "/" then "index.html" else name
  match fileType? name with
  | some contentType => ⟨200, some contentType, .prose (fileText name)⟩
  | none => .bare 404

/-- The page at a path, if there is one. -/
def find? (path : String) : Option Response :=
  if path == root then some (.bare 303)
  else if path == documentPath then some (.json 200 Api.document)
  else (fileName? path).map fileResponse

/-- Answer a request for a page. -/
def answer (r : Request) : Response :=
  match find? r.path with
  | some response => if Method.get.serves r.method then response else .bare 405
  | none => .bare 404

end LongPoll.Http.Pages
