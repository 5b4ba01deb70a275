import Vitrine.Import.Table
import Vitrine.Page.Style
import Vitrine.Text.Replace

/-!
# Scripts of a page (section 4.6)

The scripts that are put into the entry document: the import table, the loader that imports the first
module, and the capture script that reports errors to the page around. Texts go into them as JSON
literals in which `</` is written `<\/`, so that they cannot end the script.

`scriptLiteral` is `script_safe_json` of a text, `loaderScript` is `loader_script`, and `captureScript`
is `error_capture_script`.
-/

namespace Vitrine.Page

/-- Where the events of the capture script say they come from. -/
def eventSource : String := "live-preview"

/-- The name under which the capture script offers its report to the loader. -/
def reportName : String := "__livePreviewReport"

/-- `json` as it may stand in a script. -/
def scriptSafe (json : String) : String := Text.substitute "</" "<\\/" json

/-- The literal of a text as it may stand in a script. -/
def scriptLiteral (s : String) : String := scriptSafe (Json.quoted s)

/-- The capture script, with names for what differs. -/
def captureLines : List String := [
  "(() => \x7b",
  "  const pass = __PASS__;",
  "  const overlayStyle = __STYLE__;",
  "  const escapeHtml = (value) => String(value ?? '')",
  "    .replace(/&/g, '&amp;')",
  "    .replace(/</g, '&lt;')",
  "    .replace(/>/g, '&gt;')",
  "    .replace(/\"/g, '&quot;')",
  "    .replace(/'/g, '&#039;');",
  "  let reported = false;",
  "  const report = (kind, title, detail) => \x7b",
  "    if (reported || document.getElementById('error-overlay')) return;",
  "    reported = true;",
  "    const text = String(detail ?? '');",
  "    try \x7b",
  "      window.parent.postMessage(\x7b source: __SOURCE__, pass, kind, title, detail: text \x7d, '*');",
  "    \x7d catch (_) \x7b\x7d",
  "    const overlay = document.createElement('div');",
  "    overlay.id = 'error-overlay';",
  "    overlay.innerHTML = '<style>' + overlayStyle + '</style><h1>' + escapeHtml(title)"
    ++ " + '</h1><pre>' + escapeHtml(text) + '</pre>';",
  "    (document.body || document.documentElement).appendChild(overlay);",
  "  \x7d;",
  "  window.__REPORT__ = report;",
  "  window.addEventListener('error', (event) => \x7b",
  "    report('runtime-error', 'Runtime Error',",
  "      \x60Message: $\x7bevent.message\x7d\\nFile: $\x7bevent.filename\x7d"
    ++ "\\nLine: $\x7bevent.lineno\x7d, Col: $\x7bevent.colno\x7d\x60);",
  "  \x7d);",
  "  window.addEventListener('unhandledrejection', (event) => \x7b",
  "    const reason = event.reason instanceof Error ? (event.reason.stack"
    ++ " || event.reason.message) : event.reason;",
  "    report('unhandled-rejection', 'Unhandled Promise Rejection', reason);",
  "  \x7d);",
  "\x7d)();"]

/-- The loader, with names for what differs. -/
def loaderLines : List String := [
  "",
  "try \x7b",
  "  await import(__ENTRY__);",
  "\x7d catch (e) \x7b",
  "  const error = e instanceof Error ? e : new Error(String(e));",
  "  const report = window.__REPORT__;",
  "  if (report) \x7b",
  "    report('import-error', 'Import Error', error.stack || error.message);",
  "  \x7d else \x7b",
  "    console.error(error);",
  "  \x7d",
  "\x7d",
  ""]

/-- The script that reports the first error of a pass. `token` names the pass. -/
def captureScript (token : String) : String :=
  let template := String.intercalate "\n" captureLines
  let template := Text.substitute "__PASS__" (scriptLiteral token) template
  let template := Text.substitute "__STYLE__" (scriptLiteral overlayStyle) template
  let template := Text.substitute "__SOURCE__" (scriptLiteral eventSource) template
  Text.substitute "__REPORT__" reportName template

/-- The script that imports the first module. -/
def loaderScript (entryScript : String) : String :=
  let template := String.intercalate "\n" loaderLines
  let template := Text.substitute "__ENTRY__" (scriptLiteral entryScript) template
  Text.substitute "__REPORT__" reportName template

/-- The import table as the text of a script. -/
def tableScript (table : Import.Table) : String := scriptSafe table.json

end Vitrine.Page
