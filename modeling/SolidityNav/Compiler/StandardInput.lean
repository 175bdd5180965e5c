/-
# Compiler.StandardInput -- what the compiler is asked

The standard-JSON request for the AST of one source.  The keys of an override object replace or follow the generated
ones.  Compilers from 0.5.10 on are asked to recover from errors, provided the settings are an object.
-/
import SolidityNav.Compiler.Version
import SolidityNav.Json.Basic

namespace SolidityNav.Compiler

set_option autoImplicit false

/-- The first version that recovers from errors. -/
def recoveringVersion : Version :=
  ⟨0, 5, 10⟩

/-- The request without overrides. -/
def generatedInput (path content : String) : List (String × Json) :=
  [ ("language", .string "Solidity"),
    ("sources", .object [(path, .object [("content", .string content)])]),
    ("settings",
      .object [
        ("outputSelection", .object [("*", .object [("", .array [.string "ast"])])]),
        ("optimizer", .object [("enabled", .bool false)])]) ]

/-- The settings with error recovery on; settings that are no object are left alone. -/
def withRecovery (fields : Table String Json) : Table String Json :=
  match Table.find? "settings" fields with
  | some (.object settings) =>
      Table.insert "settings" (.object (Table.insert "parserErrorRecovery" (.bool true) settings)) fields
  | _ => fields

/-- The request for the AST of `content`. -/
def standardInput (path content version : String) (overrides : Json) : Json :=
  let fields := Table.insertAll (generatedInput path content) (overrides.fields?.getD [])
  .object (if Version.isAtLeast version recoveringVersion then withRecovery fields else fields)

end SolidityNav.Compiler
