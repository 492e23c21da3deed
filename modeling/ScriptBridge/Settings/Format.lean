import ScriptBridge.Json.Fields
import ScriptBridge.Settings

/-!
# The written form of settings

Settings are a record of which any member may be left out; what is left out has
its default.  A record that is an array may end early.
-/

namespace ScriptBridge
namespace Settings

def toJson (s : Settings) : Json :=
  .record
    [("functionPrefix", .ofText s.functionMark),
      ("defaultWaitTimeoutMs",
        .ofOption (fun t => .ofNat t.toNat) s.defaultTimeout)]

def ofJson? (levels : Nat) (j : Json) : Option Settings :=
  match j.record? ["functionPrefix", "defaultWaitTimeoutMs"] 0 levels with
  | some (_, [mark, timeout]) => do
      let mark := mark.getD (.ofText default.functionMark)
      let timeout := timeout.getD .null
      some ⟨← mark.text?, ← timeout.optional? Json.word?⟩
  | _ => none

def toText (s : Settings) : String :=
  s.toJson.print

def ofText? (text : String) : Option Settings :=
  (Json.parse? text).bind (ofJson? nestingLimit)

end Settings
end ScriptBridge
