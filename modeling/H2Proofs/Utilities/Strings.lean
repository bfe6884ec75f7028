import Mathlib

/-!
# Octet strings and ASCII text

`bytes` and ASCII `str` over one alphabet of octets, so that `str.encode('utf-8')` keeps the code
points, with the string facts the header pipeline rests on: lowercasing and stripping are
idempotent, commute, and leave no uppercase octet and no surrounding whitespace behind.
-/

namespace H2.Utilities

/-- An element of a Python `bytes` object. -/
abbrev Octet := Fin 256

/-- A Python `bytes` object. -/
abbrev Bytes := List Octet

/-- The octets of an ASCII literal: `ascii "te"` is `b'te'`. -/
def ascii (s : String) : Bytes := s.toList.map fun c => Fin.ofNat c.toNat

/-- The class `[A-Z]` that `UPPER_RE` searches for. -/
def isUpper (c : Octet) : Bool := 65 ≤ c.val && c.val ≤ 90

/-- `bytes.lower` on one octet; on ASCII text `str.lower` does the same. -/
def lowerOctet (c : Octet) : Octet := if isUpper c then c + 32 else c

/-- `string.whitespace`, the set `_WHITESPACE` holds and `bytes.strip` removes:
space, tab, LF, VT, FF and CR. -/
def isWhitespace (c : Octet) : Bool := c.val = 32 || (9 ≤ c.val && c.val ≤ 13)

/-- The information separators U+001C to U+001F. -/
def isSeparator (c : Octet) : Bool := 28 ≤ c.val && c.val ≤ 31

/-- What `str.strip` removes from ASCII text: `string.whitespace` and the information
separators. -/
def isTextSpace (c : Octet) : Bool := isWhitespace c || isSeparator c

/-- `s.strip()` for the strip set `p`: leading and trailing octets in `p` removed. -/
def stripBy (p : Octet → Bool) (s : Bytes) : Bytes := (s.dropWhile p).rdropWhile p

/-- `s[0] in p or s[-1] in p` for a non-empty `s`; `false` for the empty string. -/
def surroundedBy (p : Octet → Bool) (s : Bytes) : Bool := s.head?.any p || s.getLast?.any p

/-! ### One octet -/

theorem lowerOctet_val (c : Octet) :
    (lowerOctet c).val = if 65 ≤ c.val ∧ c.val ≤ 90 then c.val + 32 else c.val := by
  unfold lowerOctet isUpper
  split
  · rename_i upper
    simp only [Bool.and_eq_true, decide_eq_true_eq] at upper
    rw [Fin.val_add, show (32 : Octet).val = 32 from rfl, if_pos upper]
    omega
  · rename_i lower
    simp only [Bool.and_eq_true, decide_eq_true_eq] at lower
    rw [if_neg lower]

@[simp] theorem isUpper_lowerOctet (c : Octet) : isUpper (lowerOctet c) = false := by
  simp only [isUpper, Bool.and_eq_false_iff, decide_eq_false_iff_not, lowerOctet_val]
  split <;> omega

@[simp] theorem lowerOctet_lowerOctet (c : Octet) : lowerOctet (lowerOctet c) = lowerOctet c := by
  rw [lowerOctet, isUpper_lowerOctet]
  rfl

@[simp] theorem isWhitespace_lowerOctet (c : Octet) : isWhitespace (lowerOctet c) = isWhitespace c := by
  rw [Bool.eq_iff_iff]
  simp only [isWhitespace, Bool.or_eq_true, Bool.and_eq_true, decide_eq_true_eq, lowerOctet_val]
  split <;> omega

@[simp] theorem isSeparator_lowerOctet (c : Octet) : isSeparator (lowerOctet c) = isSeparator c := by
  rw [Bool.eq_iff_iff]
  simp only [isSeparator, Bool.and_eq_true, decide_eq_true_eq, lowerOctet_val]
  split <;> omega

@[simp] theorem isTextSpace_lowerOctet (c : Octet) : isTextSpace (lowerOctet c) = isTextSpace c := by
  simp [isTextSpace]

theorem lowerOctet_ascii {c : Octet} (ascii : c.val < 128) : (lowerOctet c).val < 128 := by
  rw [lowerOctet_val]
  split <;> omega

/-- The two strip sets differ only on the separators. -/
theorem isTextSpace_eq_isWhitespace {c : Octet} (separator : isSeparator c = false) :
    isTextSpace c = isWhitespace c := by
  rw [isTextSpace, separator, Bool.or_false]

/-! ### Stripping -/

section Strip

variable {p q : Octet → Bool} {s : Bytes}

theorem stripBy_eq_nil_iff : stripBy p s = [] ↔ ∀ c ∈ s, p c := by
  rw [stripBy, List.rdropWhile_eq_nil_iff, ← List.dropWhile_eq_nil_iff, List.dropWhile_idempotent,
    List.dropWhile_eq_nil_iff]

theorem mem_of_mem_stripBy {c : Octet} (mem : c ∈ stripBy p s) : c ∈ s :=
  (List.dropWhile_sublist p).subset ((List.rdropWhile_prefix p _).subset mem)

theorem head?_stripBy {c : Octet} (head : (stripBy p s).head? = some c) : p c = false := by
  obtain ⟨rest, split⟩ : stripBy p s <+: s.dropWhile p := List.rdropWhile_prefix p _
  have dropped : (s.dropWhile p).head? = some c := by rw [← split, List.head?_append, head]; rfl
  simpa [dropped] using List.head?_dropWhile_not p s

theorem getLast?_stripBy {c : Octet} (last : (stripBy p s).getLast? = some c) : p c = false := by
  have kept : stripBy p s ≠ [] := fun empty => by simp [empty] at last
  rw [List.getLast?_eq_getLast _ kept, Option.some.injEq] at last
  simpa [← last] using List.rdropWhile_last_not p (s.dropWhile p) kept

/-- Stripping a set leaves no end in any smaller set. -/
theorem surroundedBy_stripBy_of_imp (smaller : ∀ c, p c → q c) : surroundedBy p (stripBy q s) = false := by
  rw [surroundedBy, Bool.or_eq_false_iff]
  constructor
  · cases head : (stripBy q s).head? with
    | none => rfl
    | some c => simpa using mt (smaller c) (by simpa using head?_stripBy head)
  · cases last : (stripBy q s).getLast? with
    | none => rfl
    | some c => simpa using mt (smaller c) (by simpa using getLast?_stripBy last)

@[simp] theorem surroundedBy_stripBy : surroundedBy p (stripBy p s) = false :=
  surroundedBy_stripBy_of_imp fun _ => id

theorem stripBy_of_not_surrounded (clean : surroundedBy p s = false) : stripBy p s = s := by
  cases s with
  | nil => rfl
  | cons c cs =>
    simp only [surroundedBy, List.head?_cons, Option.any_some, Bool.or_eq_false_iff] at clean
    rw [stripBy, List.dropWhile_cons_of_neg (by simp [clean.1]), List.rdropWhile_eq_self_iff]
    intro kept
    simpa [List.getLast?_eq_getLast _ kept] using clean.2

@[simp] theorem stripBy_stripBy : stripBy p (stripBy p s) = stripBy p s :=
  stripBy_of_not_surrounded surroundedBy_stripBy

theorem rdropWhile_map (f : Octet → Octet) (l : Bytes) :
    (l.map f).rdropWhile p = (l.rdropWhile (p ∘ f)).map f := by
  simp only [List.rdropWhile, ← List.map_reverse, List.dropWhile_map]

/-- Stripping commutes with an octet map that keeps the strip set. -/
theorem stripBy_map {f : Octet → Octet} (keeps : ∀ c, p (f c) = p c) :
    stripBy p (s.map f) = (stripBy p s).map f := by
  have same : p ∘ f = p := funext keeps
  rw [stripBy, List.dropWhile_map, same, rdropWhile_map, same, stripBy]

theorem dropWhile_congr {l : Bytes} (agree : ∀ c ∈ l, p c = q c) : l.dropWhile p = l.dropWhile q := by
  induction l with
  | nil => rfl
  | cons c cs ih =>
    simp only [List.dropWhile_cons, agree c (List.mem_cons_self c cs)]
    split
    · exact ih fun d mem => agree d (List.mem_cons_of_mem c mem)
    · rfl

/-- Two strip sets that agree on the octets of `s` strip it alike. -/
theorem stripBy_congr (agree : ∀ c ∈ s, p c = q c) : stripBy p s = stripBy q s := by
  have onDropped : ∀ c ∈ (s.dropWhile p).reverse, p c = q c :=
    fun c mem => agree c ((List.dropWhile_sublist p).subset (List.mem_reverse.mp mem))
  rw [stripBy, stripBy, ← dropWhile_congr agree, List.rdropWhile, List.rdropWhile,
    dropWhile_congr onDropped]

end Strip

/-! ### Python strings -/

/-- A Python `str` of ASCII characters, as its code points. -/
@[ext] structure Text where
  codes : Bytes
  isAscii : codes.all (·.val < 128) = true
  deriving DecidableEq, Repr

/-- A header name or value as the pipeline receives it: a Python `bytes` or `str`. -/
inductive PyStr
  | bytes (b : Bytes)
  | str (t : Text)
  deriving DecidableEq, Repr

theorem all_ascii_map_lowerOctet {l : Bytes} (isAscii : l.all (·.val < 128) = true) :
    (l.map lowerOctet).all (·.val < 128) = true := by
  simp only [List.all_map, List.all_eq_true, Function.comp_apply, decide_eq_true_eq] at isAscii ⊢
  exact fun c mem => lowerOctet_ascii (isAscii c mem)

theorem all_ascii_stripBy {p : Octet → Bool} {l : Bytes} (isAscii : l.all (·.val < 128) = true) :
    (stripBy p l).all (·.val < 128) = true := by
  simp only [List.all_eq_true, decide_eq_true_eq] at isAscii ⊢
  exact fun c mem => isAscii c (mem_of_mem_stripBy mem)

namespace PyStr

/-- The literal `b'...'`. -/
def b (s : String) : PyStr := bytes (ascii s)

/-- The literal `u'...'` of an ASCII string. -/
def u (s : String) (isAscii : (ascii s).all (·.val < 128) = true) : PyStr := str ⟨ascii s, isAscii⟩

/-- The octets of a `bytes`, the code points of a `str`. -/
def codes : PyStr → Bytes
  | bytes b => b
  | str t => t.codes

/-- `isinstance(s, bytes)`. -/
def isBytes : PyStr → Bool
  | bytes _ => true
  | str _ => false

/-- `s.lower()`. -/
def lower : PyStr → PyStr
  | bytes b => bytes (b.map lowerOctet)
  | str t => str ⟨t.codes.map lowerOctet, all_ascii_map_lowerOctet t.isAscii⟩

/-- `s.strip()`: `bytes.strip` removes `string.whitespace`, `str.strip` the separators too. -/
def strip : PyStr → PyStr
  | bytes b => bytes (stripBy isWhitespace b)
  | str t => str ⟨stripBy isTextSpace t.codes, all_ascii_stripBy t.isAscii⟩

/-- Whether `s` is a `str` holding an information separator, `\x1c` to `\x1f`: `str.strip`
removes those, `bytes.strip` keeps them. -/
def hasSeparator : PyStr → Bool
  | bytes _ => false
  | str t => t.codes.any isSeparator

/-- `len(s)`: octets of a `bytes`, code points of a `str`. -/
def length (s : PyStr) : Nat := s.codes.length

/-- `s` for a `bytes`, `s.encode('utf-8')` for a `str`: UTF-8 keeps ASCII code points. -/
def encode (s : PyStr) : PyStr := bytes s.codes

/-- `s.startswith(prefix)`; `none` is the `TypeError` of mixing `bytes` and `str`. -/
def startswith : PyStr → PyStr → Option Bool
  | bytes b, bytes p => some (p.isPrefixOf b)
  | str t, str p => some (p.codes.isPrefixOf t.codes)
  | _, _ => none

@[simp] theorem codes_bytes (b : Bytes) : (bytes b).codes = b := rfl
@[simp] theorem codes_lower (s : PyStr) : s.lower.codes = s.codes.map lowerOctet := by cases s <;> rfl
@[simp] theorem codes_encode (s : PyStr) : s.encode.codes = s.codes := rfl
@[simp] theorem encode_bytes (b : Bytes) : (bytes b).encode = bytes b := rfl
@[simp] theorem isBytes_encode (s : PyStr) : s.encode.isBytes = true := rfl
@[simp] theorem lower_bytes (b : Bytes) : (bytes b).lower = bytes (b.map lowerOctet) := rfl
@[simp] theorem strip_bytes (b : Bytes) : (bytes b).strip = bytes (stripBy isWhitespace b) := rfl
@[simp] theorem length_bytes (b : Bytes) : (bytes b).length = b.length := rfl
@[simp] theorem isBytes_lower (s : PyStr) : s.lower.isBytes = s.isBytes := by cases s <;> rfl
@[simp] theorem isBytes_strip (s : PyStr) : s.strip.isBytes = s.isBytes := by cases s <;> rfl

theorem encode_lower (s : PyStr) : s.lower.encode = s.encode.lower := by cases s <;> rfl

/-- A string is its form and its code points. -/
theorem eq_iff_codes (x y : PyStr) : x = y ↔ x.isBytes = y.isBytes ∧ x.codes = y.codes := by
  cases x <;> cases y <;> simp [isBytes, codes, Text.ext_iff]

/-- `strip` leaves no whitespace at either end, in either form. -/
theorem surroundedBy_codes_strip (s : PyStr) : surroundedBy isWhitespace s.strip.codes = false := by
  cases s with
  | bytes b => exact surroundedBy_stripBy
  | str t => exact surroundedBy_stripBy_of_imp fun c space => by simp [isTextSpace, space]

theorem isUpper_of_mem_codes_lower_strip {s : PyStr} {c : Octet} (mem : c ∈ s.lower.strip.codes) :
    isUpper c = false := by
  have lowered : c ∈ s.lower.codes := by
    cases s <;> exact mem_of_mem_stripBy mem
  obtain ⟨d, -, rfl⟩ := List.mem_map.mp (codes_lower s ▸ lowered)
  exact isUpper_lowerOctet d

end PyStr

/-- A frozenset entry written both ways, `b'...'` and `u'...'`, as the source's sets are. -/
def bothForms (s : String) (isAscii : (ascii s).all (·.val < 128) = true) : List PyStr :=
  [PyStr.b s, PyStr.u s isAscii]

/-- A set that lists both forms of a literal only looks at code points. -/
@[simp] theorem mem_bothForms {x : PyStr} {s : String} {isAscii} :
    x ∈ bothForms s isAscii ↔ x.codes = ascii s := by
  cases x <;> simp [bothForms, PyStr.b, PyStr.u, PyStr.codes, Text.ext_iff, eq_comm]

end H2.Utilities
