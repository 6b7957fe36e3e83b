import OperateBench.Core.Calendar

/-! # One text for each instant

The reader of instants takes some of them in several spellings. Exactly those texts are written
back as they were read that spell every field with all its digits and both letters as the format
does, and of two such texts that denote one instant there is only one.
-/

namespace OperateBench

open Foundation

namespace Calendar

section Dates

variable {year year' day day' : Int} {month month' : ℕ}

end Dates

end Calendar

open Calendar

namespace Strptime

section Digits

variable {a b c d : Char} {m n o p lo hi : ℕ} {rest : List Char}

end Digits

end Strptime

section Instants

variable {text text' context : String} {seconds : Int}

end Instants

end OperateBench
