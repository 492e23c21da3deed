import ScriptBridge.Text.Inspection

/-!
# Settings

What every script of a bridge shares: the mark that opens native functions to
scripts, and the timeout of waits that are begun without one.
-/

namespace ScriptBridge

structure Settings where
  functionMark : String
  defaultTimeout : Option UInt64
  deriving DecidableEq

namespace Settings

def default : Settings :=
  ⟨"netFunc_", none⟩

instance : Inhabited Settings :=
  ⟨default⟩

def inspect (s : Settings) : String :=
  Inspection.record "BridgeConfig"
    [("function_prefix", Inspection.quoted s.functionMark),
      ("default_wait_timeout_ms",
        Inspection.optional (s.defaultTimeout.map (fun t => toString t.toNat)))]

end Settings

end ScriptBridge
