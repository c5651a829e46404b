import Restyle.Conversion.Result
import Restyle.Report.Style
import Restyle.Report.Table
import Restyle.Text.Lowercase

/-!
# What is shown on the console

## Main definitions

* `Restyle.Console` — whether there are colours and emoji, and the texts that are shown: the
  banner, the header of a root, a line for each file and for its outcome, and the closing lines.
* `Restyle.Console.event` — what is shown for an event.
* `Restyle.Console.summary` — what is shown for a summary.

## Main results

* `Restyle.Console.event_rootStarted`, `Restyle.Console.event_visiting`,
  `Restyle.Console.event_finished` — the texts for events, character by character.
-/

namespace Restyle

/-- A console, with or without colours, and with or without emoji. -/
structure Console where
  colours : Bool
  emoji : Bool

namespace Console

/-- An emoji, or what stands for it on a console without emoji. -/
def sign (c : Console) (emoji fallback : String) : String := if c.emoji then emoji else fallback

/-- The sign at the end of a session. -/
def rocket (c : Console) : String := c.sign "🚀 " ">> "

/-- The sign of a root. -/
def folder (c : Console) : String := c.sign "📂 " ""

/-- The sign of a note. -/
def note (c : Console) : String := c.sign "📝 " "[!] "

/-- The width of the lines drawn across the console. -/
def ruleWidth : Nat := 60

/-- A line of text. -/
def line (parts : List String) : String := String.join parts ++ "\n"

/-- What is shown at the beginning of a session. -/
def banner (c : Console) (version : String) : String :=
  let cyan := (Style.coloured .cyan).apply c.colours
  let across := line ["    ", cyan (Table.repeated "═" ruleWidth)]
  line [] ++ across ++
    line ["    ", (Style.strong .cyan).apply c.colours "Material-UI to Bootstrap Converter"] ++
    line ["    ", Style.faint.apply c.colours ("v" ++ version)] ++ across ++ line []

/-- What is shown when a root is begun. -/
def rootHeader (c : Console) (label : String) (dir : Path) : String :=
  let faint := Style.faint.apply c.colours
  line [] ++
    line ["    ", c.folder,
      (Style.strong .cyan).apply c.colours ("Converting " ++ Text.lowercase label),
      " ", faint "│", " ", faint dir.toText] ++
    line ["    ", faint (Table.repeated "─" ruleWidth)]

/-- What is shown when a file is begun. -/
def converting (p : Path) : String := line ["    Converting: ", p.toText]

/-- What is shown for a file that changed. -/
def converted (c : Console) : String :=
  line ["      ", (Style.strong .green).apply c.colours "✓", " ",
    (Style.coloured .green).apply c.colours "Converted successfully"]

/-- What is shown for a file that did not change. -/
def unchanged (c : Console) : String :=
  line ["      ", Style.faint.apply c.colours "-", " ",
    Style.faint.apply c.colours "No changes needed"]

/-- What is shown for a file that was not converted. -/
def fileError (c : Console) (message : String) : String :=
  line ["      ", (Style.strong .red).apply c.colours "✗", " ",
    (Style.coloured .red).apply c.colours ("Error: " ++ message)]

/-- What is shown about the names of backups. -/
def backupNotice (c : Console) (marker : String) : String :=
  line [] ++
    line ["    ", c.note, "Note: Original files have been backed up with '",
      (Style.coloured .yellow).apply c.colours marker, ".js' suffix"] ++
    line ["    Please review the converted files and test thoroughly!"]

/-- What is shown at the end of a session. -/
def completion (c : Console) : String :=
  line [] ++
    line ["    ", c.rocket, (Style.strong .green).apply c.colours "Conversion complete!"] ++
    line []

/-- What is shown for a summary: a heading and the table. -/
def summary (c : Console) (s : Summary) : String :=
  line [] ++
    line ["    ", (Style.coloured .cyan).apply c.colours "📋", " ",
      (Style.strong .white).apply c.colours "CONVERSION SUMMARY"] ++
    line ["    ", Style.faint.apply c.colours (Table.repeated "─" 50)] ++ line [] ++
    String.join (s.table.lines.map fun l => line ["    ", l])

/-- What is shown for an event. -/
def event (c : Console) : Event → String
  | .rootStarted root => c.rootHeader root.label root.dir
  | .visiting p => converting p
  | .finished r =>
    match r.error?, r.wasModified with
    | some e, _ => c.fileError e.message
    | none, true => c.converted
    | none, false => c.unchanged

/-- What is shown for events, in order. -/
def events (c : Console) (es : List Event) : String := String.join (es.map c.event)

/-! ### The texts for events -/

/-- A text behind control sequences on a console with colours, and plain on one without. -/
def paint (c : Console) (opening text : String) : String :=
  if c.colours then opening ++ text ++ "\x1b[0m" else text

theorem line_eq (parts : List String) : line parts = String.join parts ++ "\n" := rfl

/-- A dim text. -/
theorem faint_apply (c : Console) (text : String) :
    Style.faint.apply c.colours text = c.paint "\x1b[2m" text :=
  Style.apply_eq (by decide) (by decide) ..

/-- The header of a root. -/
theorem event_rootStarted (c : Console) (root : SourceRoot) :
    c.event (.rootStarted root) =
      "\n    " ++ (if c.emoji then "📂 " else "") ++
        c.paint "\x1b[36m\x1b[1m" ("Converting " ++ Text.lowercase root.label) ++ " " ++
        c.paint "\x1b[2m" "│" ++ " " ++ c.paint "\x1b[2m" root.dir.toText ++ "\n    " ++
        c.paint "\x1b[2m" "────────────────────────────────────────────────────────────" ++
        "\n" := by
  have hlabel (text : String) :
      (Style.strong .cyan).apply c.colours text = c.paint "\x1b[36m\x1b[1m" text :=
    Style.apply_eq (by decide) (by decide) ..
  have hrule : Table.repeated "─" ruleWidth =
      "────────────────────────────────────────────────────────────" := by
    decide +kernel
  simp only [event, rootHeader, line_eq, hlabel, hrule, faint_apply, folder, sign, String.join_cons,
    String.join_nil, String.append_empty, String.append_assoc]
  rfl

/-- The line of a file. -/
theorem event_visiting (c : Console) (p : Path) :
    c.event (.visiting p) = "    Converting: " ++ p.toText ++ "\n" := by
  simp only [event, converting, line_eq, String.join_cons, String.join_nil, String.append_empty]

/-- The line of an outcome: the message if there is an error, and otherwise whether the file
changed. -/
theorem event_finished (c : Console) (r : ConversionResult) :
    c.event (.finished r) =
      "      " ++
        (match r.error?, r.wasModified with
        | some e, _ => c.paint "\x1b[31m\x1b[1m" "✗" ++ " " ++
            c.paint "\x1b[31m" ("Error: " ++ e.message)
        | none, true => c.paint "\x1b[32m\x1b[1m" "✓" ++ " " ++
            c.paint "\x1b[32m" "Converted successfully"
        | none, false => c.paint "\x1b[2m" "-" ++ " " ++
            c.paint "\x1b[2m" "No changes needed") ++
        "\n" := by
  have hstrong (text : String) :
      (Style.strong .red).apply c.colours text = c.paint "\x1b[31m\x1b[1m" text ∧
        (Style.strong .green).apply c.colours text = c.paint "\x1b[32m\x1b[1m" text :=
    ⟨Style.apply_eq (by decide) (by decide) .., Style.apply_eq (by decide) (by decide) ..⟩
  have hcoloured (text : String) :
      (Style.coloured .red).apply c.colours text = c.paint "\x1b[31m" text ∧
        (Style.coloured .green).apply c.colours text = c.paint "\x1b[32m" text :=
    ⟨Style.apply_eq (by decide) (by decide) .., Style.apply_eq (by decide) (by decide) ..⟩
  rw [event]
  split
  all_goals
    simp only [fileError, converted, unchanged, line_eq, hstrong, hcoloured, faint_apply,
      String.join_cons, String.join_nil, String.append_empty, String.append_assoc]

end Console

end Restyle
