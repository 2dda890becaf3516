import RequestBinding.Proofs.CommandLine.Request
import RequestBinding.Proofs.Datum.JsonText
import RequestBinding.Proofs.Schema.Stability

set_option autoImplicit false

namespace RequestBinding.CommandLine

end RequestBinding.CommandLine
