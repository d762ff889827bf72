import Recordsmith.Translate.Read
import Recordsmith.Translate.Write

/-!
# `Recordsmith.Translate.Derived`: the translator of a schema

A schema and the meaning of its types make a translator.
-/

set_option autoImplicit false

namespace Recordsmith

/-- The translator of a domain type. -/
def Handler.translator (bindings : Bindings) (handler : Handler) : Translator where
  fresh := handler.fresh bindings
  read := readRow bindings handler
  write := writeRow bindings handler

end Recordsmith
