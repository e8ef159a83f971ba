import Sketchflow.Text.Case
import Sketchflow.Value.Operators

/-!
# Settings

Each setting is read from an environment variable and has a default. A value that cannot be read
as what it should be is ignored with a warning.

* `resolve` reads one setting, `load` all of them.
* `logLevel` is the threshold a level name stands for.
-/

namespace Sketchflow.Settings

/-- Environment variables and their values. -/
abbrev Environment := List (String × String)

/-- What a setting is read as. -/
inductive Cast where
  | text
  | integer
  | decimal

def Cast.read? : Cast → String → Option Value
  | .text, s => some (.str s)
  | .integer, s => (Number.readInt s).toOption.map .int
  | .decimal, s => (Number.readFloat? s).map .float

/-- A setting and the warnings given while it was read. -/
structure Resolved where
  value : Value
  warnings : List String

/-- The setting behind a variable. Blanks around a value do not count, and a blank value is
none. -/
def resolve (env : Environment) (name : String) (default : Value) (cast : Cast) : Resolved :=
  let text := Text.strip ((env.lookup name).getD "")
  if text == "" then ⟨default, []⟩
  else match cast.read? text with
    | some v => ⟨v, []⟩
    | none =>
      ⟨default, ["Ignoring invalid value " ++ Text.quote text ++ " for " ++ name]⟩

def resolveText (env : Environment) (name default : String) : String :=
  (resolve env name (.str default) .text).value.display

end Settings

/-- What can be set. -/
structure Settings where
  workspaceDir : String
  debounceSeconds : Float := 0.5
  /-- How many rounds a loop may make. -/
  whileLimit : Value := .int 25000
  logLevel : String := "INFO"
  host : String := "127.0.0.1"
  port : Int := 5002

namespace Settings

/-- A decimal setting and its warnings. -/
def resolveFloat (env : Environment) (name : String) (default : Float) :
    Float × List String :=
  match resolve env name (.float default) .decimal with
  | ⟨.float x, warnings⟩ => (x, warnings)
  | ⟨_, warnings⟩ => (default, warnings)

/-- An integer setting and its warnings. -/
def resolveInt (env : Environment) (name : String) (default : Int) : Int × List String :=
  match resolve env name (.int default) .integer with
  | ⟨.int i, warnings⟩ => (i, warnings)
  | ⟨_, warnings⟩ => (default, warnings)

/-- All settings, and the warnings given while they were read. -/
def load (env : Environment) (defaultDir : String) : Settings × List String :=
  let (debounceSeconds, w1) := resolveFloat env "NODECANVAS_AUTORUN_DEBOUNCE" 0.5
  let ⟨whileLimit, w2⟩ := resolve env "NODECANVAS_WHILE_LIMIT" (.int 25000) .integer
  let (port, w3) := resolveInt env "NODECANVAS_PORT" 5002
  let settings : Settings :=
    { workspaceDir := resolveText env "NODECANVAS_WORKSPACE_DIR" defaultDir
      debounceSeconds, whileLimit, port
      logLevel := Text.upper (resolveText env "NODECANVAS_LOG_LEVEL" "INFO")
      host := resolveText env "NODECANVAS_HOST" "127.0.0.1" }
  (settings, w1 ++ w2 ++ w3)

/-! ## Log levels -/

def levels : List (String × Nat) :=
  [("NOTSET", 0), ("DEBUG", 10), ("INFO", 20), ("WARN", 30), ("WARNING", 30), ("ERROR", 40),
    ("CRITICAL", 50), ("FATAL", 50)]

/-- The layout of a log line, which also has a name but is no level. -/
def lineLayout : String := "%(levelname)s:%(name)s:%(message)s"

def lineLayoutName : String := "BASIC_FORMAT"

def layoutTableName : String := "_STYLES"

/-- The table of line layouts in words. -/
def layoutTable : String :=
  "\x7b'%': (<class 'logging.PercentStyle'>, '%(levelname)s:%(name)s:%(message)s'), '\x7b': "
    ++ "(<class 'logging.StrFormatStyle'>, '\x7blevelname\x7d:\x7bname\x7d:\x7bmessage\x7d'), '$': "
    ++ "(<class 'logging.StringTemplateStyle'>, "
    ++ "'$\x7blevelname\x7d:$\x7bname\x7d:$\x7bmessage\x7d')\x7d"

/-- A name that stands for something that is no level. -/
inductive BadLevel where
  | layout
  | layouts

/-- The reason in words. -/
def BadLevel.message : BadLevel → String
  | .layout => "Unknown level: " ++ Text.quote lineLayout
  | .layouts => "Level not an integer or a valid string: " ++ layoutTable

/-- The threshold of a level name; a name that stands for nothing means the level for
information. -/
def threshold (name : String) : Except BadLevel Nat :=
  let name := Text.upper name
  if name == lineLayoutName then .error .layout
  else if name == layoutTableName then .error .layouts
  else .ok ((levels.lookup name).getD 20)

/-- The threshold of the given level name, or of the environment's if none or an empty one is
given. -/
def logThreshold (env : Environment) (level : String) : Except BadLevel Nat :=
  threshold (if level == "" then resolveText env "NODECANVAS_LOG_LEVEL" "INFO" else level)

/-- The threshold of a level that may be given as any value: a false one counts as none. -/
def logThresholdBy (env : Environment) (level : Value) : Except Fault (Except BadLevel Nat) :=
  match level with
  | .str s => .ok (logThreshold env s)
  | v => if v.isTrue then .error (.noAttribute v.kindName "upper") else .ok (logThreshold env "")

end Settings

end Sketchflow
