/-
# LogSettings -- where logs go and what they hold

The environment decides on the directory of the log files and on the least level that is logged.
-/
import SolidityNav.Path

namespace SolidityNav.LogSettings

set_option autoImplicit false

/-- What is logged: everything up to a level, or nothing. -/
inductive Filter where
  | off
  | error
  | warn
  | info
  | debug
  | trace
deriving DecidableEq, Repr

namespace Filter

def name : Filter → String
  | off => "off"
  | error => "error"
  | warn => "warn"
  | info => "info"
  | debug => "debug"
  | trace => "trace"

/-- The filters in the order of the numbers that also name them. -/
def all : List Filter :=
  [off, error, warn, info, debug, trace]

/-- The filter a text names, by word in any case or by number; an empty text asks for errors only. -/
def parse? (text : String) : Option Filter :=
  if text.isEmpty then some .error
  else
    let lower := text.toList.map Char.toLower
    (all.find? fun filter => filter.name.toList == lower) <|>
      (all.zipIdx.find? fun (_, number) => Nat.toDigits 10 number == lower).map Prod.fst

/-- The filter of the environment; `info` when none is named. -/
def ofEnvironment (value : Option String) : Filter :=
  (value.bind parse?).getD .info

end Filter

/-- The directory of the log files: the one configured, or one below the home directory. -/
def directory (configured : Option Path) (home : Option String) : Path :=
  match configured with
  | some path => if path.bytes.isEmpty then below else path
  | none => below
where
  below : Path :=
    ((Path.ofText (home.getD ".")).join (.ofText ".solscope")).join (.ofText "logs")

end SolidityNav.LogSettings
