/-!
# The style sheet of HTML reports

A style sheet is a list of blocks, divided by empty lines. Most blocks are one rule with a
declaration a line; a few put several short rules on a line each.
-/

namespace BrowserFlow.Report

/-- A property and its value. -/
abbrev Declaration := String × String

/-- A block of a style sheet. -/
inductive StyleBlock
  /-- One rule, its declarations on lines of their own. -/
  | rule (selector : String) (declarations : List Declaration)
  /-- Rules that take one line each. -/
  | lines (rules : List (String × List Declaration))

namespace StyleBlock

/-- A declaration, as it stands on its line. -/
def declaration (d : Declaration) : String :=
  d.1 ++ ": " ++ d.2 ++ ";"

/-- A rule on one line. -/
def shortRule (selector : String) (declarations : List Declaration) : String :=
  "        " ++ selector ++ " \x7b " ++ " ".intercalate (declarations.map declaration) ++ " \x7d\n"

/-- The text of a block. -/
def render : StyleBlock → String
  | .rule selector declarations =>
    "        " ++ selector ++ " \x7b\n" ++
      "".intercalate (declarations.map fun d => "            " ++ declaration d ++ "\n") ++
      "        \x7d\n"
  | .lines rules => "".intercalate (rules.map fun (selector, ds) => shortRule selector ds)

end StyleBlock

/-- The blocks of the reports' style sheet. -/
def styleBlocks : List StyleBlock := [
  .rule ":root" [
    ("--bg-primary", "#0a0f1d"), ("--bg-secondary", "#141b2d"), ("--bg-tertiary", "#1f2937"),
    ("--border", "#374151"), ("--text-primary", "#f9fafb"), ("--text-secondary", "#9ca3af"),
    ("--green", "#10b981"), ("--red", "#ef4444"), ("--blue", "#3b82f6"), ("--purple", "#8b5cf6"),
    ("--glass", "rgba(255, 255, 255, 0.03)")],
  .rule "*" [
    ("margin", "0"), ("padding", "0"), ("box-sizing", "border-box")],
  .rule "body" [
    ("font-family", "'Inter', system-ui, -apple-system, sans-serif"),
    ("background", "var(--bg-primary)"), ("color", "var(--text-primary)"), ("line-height", "1.5"),
    ("padding", "3rem 1rem")],
  .rule ".container" [
    ("max-width", "1100px"), ("margin", "0 auto")],
  .rule "header" [
    ("margin-bottom", "2rem"), ("display", "flex"), ("justify-content", "space-between"),
    ("align-items", "flex-end")],
  .rule "h1" [
    ("font-size", "2.25rem"), ("font-weight", "800"), ("letter-spacing", "-0.025em")],
  .rule "h2" [
    ("font-size", "1.25rem"), ("font-weight", "700"), ("margin", "2.5rem 0 1rem")],
  .rule ".page-info" [
    ("color", "var(--text-secondary)"), ("font-size", "0.875rem"), ("margin-bottom", "2rem"),
    ("word-break", "break-all")],
  .rule ".summary" [
    ("display", "grid"), ("grid-template-columns", "repeat(auto-fit, minmax(200px, 1fr))"),
    ("gap", "1.5rem"), ("margin-bottom", "2rem")],
  .rule ".stat" [
    ("background", "var(--bg-secondary)"), ("border", "1px solid var(--border)"),
    ("padding", "1.5rem"), ("border-radius", "1rem")],
  .rule ".stat-value" [
    ("font-size", "2.5rem"), ("font-weight", "800"), ("margin-bottom", "0.25rem")],
  .rule ".stat-label" [
    ("color", "var(--text-secondary)"), ("font-size", "0.875rem"), ("font-weight", "500"),
    ("text-transform", "uppercase"), ("letter-spacing", "0.05em")],
  .lines [
    (".stat.passed .stat-value", [("color", "var(--green)")]),
    (".stat.failed .stat-value", [("color", "var(--red)")])],
  .rule ".progress-bar" [
    ("background", "var(--bg-secondary)"), ("height", "12px"), ("border-radius", "6px"),
    ("overflow", "hidden"), ("border", "1px solid var(--border)")],
  .rule ".progress-fill" [
    ("height", "100%"), ("background", "linear-gradient(90deg, var(--green), #34d399)")],
  .rule ".group" [
    ("background", "var(--bg-secondary)"), ("border", "1px solid var(--border)"),
    ("border-radius", "1.25rem"), ("margin-bottom", "1.5rem"), ("overflow", "hidden")],
  .rule ".group-header" [
    ("padding", "1rem 1.5rem"), ("background", "var(--glass)"),
    ("border-bottom", "1px solid var(--border)"), ("font-weight", "700")],
  .rule ".steps" [
    ("padding", "1rem 1.5rem")],
  .rule ".step" [
    ("padding", "0.75rem 1rem"), ("border-radius", "0.75rem"), ("display", "flex"),
    ("align-items", "flex-start"), ("gap", "1rem"), ("margin-bottom", "0.5rem")],
  .rule ".step:hover" [
    ("background", "var(--bg-tertiary)")],
  .rule ".step-icon" [
    ("width", "2rem"), ("height", "2rem"), ("display", "flex"), ("align-items", "center"),
    ("justify-content", "center"), ("border-radius", "0.5rem"), ("flex-shrink", "0")],
  .lines [
    (".step.passed .step-icon",
      [("background", "rgba(16, 185, 129, 0.1)"), ("color", "var(--green)")]),
    (".step.failed .step-icon",
      [("background", "rgba(239, 68, 68, 0.1)"), ("color", "var(--red)")])],
  .rule ".step-content" [
    ("flex", "1")],
  .rule ".step-name" [
    ("font-family", "'JetBrains Mono', monospace"), ("font-size", "0.9375rem")],
  .rule ".duration" [
    ("color", "var(--text-secondary)"), ("font-size", "0.75rem")],
  .rule ".error-message" [
    ("background", "rgba(239, 68, 68, 0.1)"), ("border-radius", "0.5rem"), ("padding", "0.75rem"),
    ("margin-top", "0.5rem"), ("color", "#fca5a5"), ("font-size", "0.8125rem"),
    ("font-family", "'JetBrains Mono', monospace"),
    ("border", "1px solid rgba(239, 68, 68, 0.2)")],
  .rule ".screenshots" [
    ("display", "grid"), ("grid-template-columns", "repeat(auto-fill, minmax(300px, 1fr))"),
    ("gap", "1rem")],
  .rule ".screenshots img" [
    ("width", "100%"), ("border-radius", "0.75rem"), ("border", "1px solid var(--border)"),
    ("cursor", "pointer")],
  .rule ".logs, .extractions" [
    ("background", "var(--bg-secondary)"), ("border", "1px solid var(--border)"),
    ("border-radius", "1rem"), ("padding", "1rem 1.5rem"),
    ("font-family", "'JetBrains Mono', monospace"), ("font-size", "0.8125rem")],
  .rule ".log-entry" [
    ("padding", "0.25rem 0"), ("border-bottom", "1px solid var(--glass)")],
  .rule ".log-type" [
    ("color", "var(--purple)"), ("margin-right", "0.5rem")],
  .rule ".meta" [
    ("margin-top", "4rem"), ("padding-top", "2rem"), ("border-top", "1px solid var(--border)"),
    ("color", "var(--text-secondary)"), ("font-size", "0.875rem"), ("display", "flex"),
    ("justify-content", "center"), ("gap", "2rem")],
  .rule "#modal" [
    ("display", "none"), ("position", "fixed"), ("z-index", "100"), ("top", "0"), ("left", "0"),
    ("width", "100%"), ("height", "100%"), ("background", "rgba(0, 0, 0, 0.9)"),
    ("padding", "2rem"), ("align-items", "center"), ("justify-content", "center")],
  .rule "#modal img" [
    ("max-width", "100%"), ("max-height", "100%"), ("border-radius", "0.5rem")],
  .rule "#modal.active" [
    ("display", "flex")]]

/-- The reports' style sheet. -/
def styleSheet : String :=
  "\n".intercalate (styleBlocks.map StyleBlock.render)

end BrowserFlow.Report
