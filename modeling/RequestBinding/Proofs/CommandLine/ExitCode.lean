import RequestBinding.Proofs.CommandLine.Scan

set_option autoImplicit false

namespace RequestBinding

namespace SourceFile

variable {file : SourceFile} {marker : Text}

end SourceFile

namespace CommandLine

def Job.Unreadable : Job → Prop
  | .parse _ _ => False
  | .scan _ _ file => ∀ text, file.bytes ≠ Utf8.encode text

theorem Idle.fault? {outcome : Outcome} (idle : Idle outcome) : outcome.fault? = none := by
  cases idle <;> rfl

variable {tree : FileTree} {setting? : Option Text} {args : List Text}

end CommandLine

end RequestBinding
