import Reckon.Engine
import Reckon.Standard.Operators
import Reckon.Standard.ArrayFunctions
import Reckon.Standard.TextFunctions
import Reckon.Standard.DateFunctions

/-!
The standard engine.
-/

namespace Reckon

/-- The standard operators and functions.  The clock gives the moment of a date without argument. -/
def Standard.registry (clock : Calendar.Moment) : Registry :=
  ((Standard.withOperators .empty).setFunctions
    (Standard.arrayFunctions ++ Standard.textFunctions)).setFunctions
    (Standard.dateFunctions clock)

def Engine.standard (clock : Calendar.Moment) : Engine :=
  { Engine.core with registry := Standard.registry clock }

end Reckon
