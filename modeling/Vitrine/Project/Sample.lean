import Vitrine.Project.Snapshot

/-!
# The sample project (section 10)

What a new editor opens with: an entry document, a first script, a description, and notes that show the
rendering of documentation.

This is `default_project`.
-/

namespace Vitrine.Sample

/-- The file that is selected at first. -/
def selection : String := "index.tsx"

/-- The entry document. -/
def entryDocument : List String := [
  "<!DOCTYPE html>",
  "<html lang=\"en\">",
  "  <head>",
  "    <meta charset=\"UTF-8\" />",
  "    <meta name=\"viewport\" content=\"width=device-width, initial-scale=1.0\" />",
  "    <title>My App</title>",
  "    <style>",
  "      body \x7b",
  "        font-family: sans-serif;",
  "        background-color: #222;",
  "        color: white;",
  "        display: flex;",
  "        justify-content: center;",
  "        align-items: center;",
  "        height: 100vh;",
  "        margin: 0;",
  "      \x7d",
  "    </style>",
  "  </head>",
  "  <body>",
  "    <div id=\"root\"></div>",
  "    <script type=\"module\" src=\"/index.tsx\"></script>",
  "  </body>",
  "</html>"]

/-- The first script. -/
def entryScript : List String := [
  "import React from 'react';",
  "import ReactDOM from 'react-dom/client';",
  "",
  "const App = () => \x7b",
  "  return <h1>Hello, AI Builder!</h1>;",
  "\x7d;",
  "",
  "const root = document.getElementById('root');",
  "if (root) \x7b",
  "  ReactDOM.createRoot(root).render(<App />);",
  "\x7d",
  ""]

/-- The name and the description of the project. -/
def metadata : List String := [
  "\x7b",
  "  \"name\": \"My New App\",",
  "  \"description\": \"A web app created with the AI Web App Builder.\"",
  "\x7d"]

/-- Notes on asynchronous requests. -/
def ajaxNotes : List String := [
  "# AJAX (Asynchronous JavaScript and XML)",
  "",
  "AJAX combines the browser's \x60XMLHttpRequest\x60 object with the DOM to update a",
  "page without reloading it.",
  "",
  "## Key Concepts",
  "- **Asynchronous:** the page keeps working while the request is in flight.",
  "- **Event-based:** a callback runs when the request changes state.",
  ""]

/-- Notes on the older request object. -/
def requestNotes : List String := [
  "# XMLHttpRequest (XHR)",
  "",
  "\x60XMLHttpRequest\x60 is the browser API underneath AJAX. It offers progress events",
  "and request timeouts that \x60fetch()\x60 does not expose directly.",
  "",
  "\x60\x60\x60javascript",
  "const xhr = new XMLHttpRequest();",
  "xhr.open('GET', 'https://api.github.com/users/google', true);",
  "xhr.onload = () => console.log(JSON.parse(xhr.response));",
  "xhr.send();",
  "\x60\x60\x60",
  ""]

/-- Notes on the newer request function. -/
def fetchNotes : List String := [
  "# Fetch API",
  "",
  "\x60fetch()\x60 returns a Promise that resolves to a \x60Response\x60. It only rejects on",
  "network failure, so check \x60response.ok\x60 for HTTP errors.",
  "",
  "\x60\x60\x60javascript",
  "const response = await fetch('https://api.github.com/users/google');",
  "if (!response.ok) throw new Error(\x60HTTP error! status: $\x7bresponse.status\x7d\x60);",
  "console.log(await response.json());",
  "\x60\x60\x60",
  ""]

/-- The sample project. -/
def snapshot : Snapshot :=
  Snapshot.ofList ([
    ("index.html", entryDocument),
    ("index.tsx", entryScript),
    ("metadata.json", metadata),
    ("ASYNC/ajax-notes.md", ajaxNotes),
    ("ASYNC/xhr-notes.md", requestNotes),
    ("ASYNC/fetch-notes.md", fetchNotes)].map fun (path, lines) => (path, String.intercalate "\n" lines))

end Vitrine.Sample
