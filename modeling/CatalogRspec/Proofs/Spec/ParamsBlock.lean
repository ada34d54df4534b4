import CatalogRspec.Proofs.Literal.KeyWidth
import CatalogRspec.Proofs.Literal.PrettyReadBack
import CatalogRspec.Spec.Text

namespace CatalogRspec

open Json Literal

namespace Literal.Key

end Literal.Key

namespace Spec

end Spec

end CatalogRspec
