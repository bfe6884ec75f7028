import H2Proofs.Utilities.Generators

/-!
# The validating generators

The generators of `validate_headers` and `validate_outbound_headers`, each a `checkEach` whose
loop state is the source's (the pseudo-header names seen, the last `:authority` and `Host`
values), and the spec of each check: when a whole list passes it, and in which state it ends.
-/

namespace H2.Utilities

/-! ### Checks on one header -/

/-- `UPPER_RE.search(header[0])` in `_reject_uppercase_header_fields`. -/
def rejectUppercaseHeaderField (header : Header PyStr) : Except PyException Unit :=
  match header.name with
  | .bytes n => if n.any isUpper then .error (.protocolError (.uppercaseName header.name)) else .ok ()
  | .str _ => .error .typeError

/-- `s[0] in _WHITESPACE or s[-1] in _WHITESPACE`: `none` is the `IndexError` of an empty
string. A `str` indexes to a one-character `str`, never one of the set's integers. -/
def endsInWhitespace : PyStr → Option Bool
  | .bytes [] => none
  | .bytes b => some (surroundedBy isWhitespace b)
  | .str t => if t.codes = [] then none else some false

/-- The body of `_reject_surrounding_whitespace`. An empty value is falsy and never indexed. -/
def rejectSurroundingWhitespaceField (header : Header PyStr) : Except PyException Unit :=
  match endsInWhitespace header.name with
  | none => .error .indexError
  | some true => .error (.protocolError (.nameSurroundedByWhitespace header.name))
  | some false =>
    if endsInWhitespace header.value = some true then
      .error (.protocolError (.valueSurroundedByWhitespace header.value))
    else .ok ()

/-- The body of `_reject_te`. -/
def rejectTeField (header : Header PyStr) : Except PyException Unit :=
  if header.name ∈ bothForms "te" rfl ∧ header.value.lower ∉ bothForms "trailers" rfl then
    .error (.protocolError (.invalidTe header.value))
  else .ok ()

/-- The body of `_reject_connection_header`. -/
def rejectConnectionHeaderField (header : Header PyStr) : Except PyException Unit :=
  if header.name ∈ connectionHeaders then .error (.protocolError (.connectionSpecific header.name))
  else .ok ()

/-- `_custom_startswith`: the prefix of the string's own form. -/
def customStartswith (testString : PyStr) (bytesPrefix : Bytes) (unicodePrefix : Text) : Bool :=
  match testString with
  | .bytes b => bytesPrefix.isPrefixOf b
  | .str t => unicodePrefix.codes.isPrefixOf t.codes

/-- `_custom_startswith(name, b':', u':')`: a pseudo-header name. -/
def isPseudoHeaderName (name : PyStr) : Bool := customStartswith name (ascii ":") ⟨ascii ":", rfl⟩

/-- The loop state of `_reject_pseudo_header_fields`. -/
structure PseudoHeaderScan where
  /-- `seen_pseudo_header_fields`, newest first. -/
  seenPseudoHeaderFields : List PyStr
  /-- `seen_regular_header`. -/
  seenRegularHeader : Bool
  deriving DecidableEq, Repr

/-- The loop body of `_reject_pseudo_header_fields`. -/
def rejectPseudoHeaderField (state : PseudoHeaderScan) (header : Header PyStr) :
    Except PyException PseudoHeaderScan :=
  if isPseudoHeaderName header.name then
    if header.name ∈ state.seenPseudoHeaderFields then
      .error (.protocolError (.duplicatePseudoHeader header.name))
    else
      let seen := header.name :: state.seenPseudoHeaderFields
      if state.seenRegularHeader then .error (.protocolError (.pseudoHeaderOutOfSequence header.name))
      else if header.name ∉ allowedPseudoHeaderFields then
        .error (.protocolError (.customPseudoHeader header.name))
      else .ok { state with seenPseudoHeaderFields := seen }
  else .ok { state with seenRegularHeader := true }

/-- The checks `_reject_pseudo_header_fields` makes after its loop. -/
def rejectPseudoHeaderFieldsAfter (flags : HeaderValidationFlags) (state : PseudoHeaderScan) :
    Option PyException :=
  if flags.isTrailer ∧ state.seenPseudoHeaderFields ≠ [] then
    some (.protocolError (.pseudoHeaderInTrailer state.seenPseudoHeaderFields))
  else if flags.isResponseHeader ∧
      ¬(PyStr.b ":status" ∈ state.seenPseudoHeaderFields ∨
        PyStr.u ":status" rfl ∈ state.seenPseudoHeaderFields) then
    some (.protocolError .missingStatus)
  else none

/-- The loop state of `_validate_host_authority_header`. -/
structure HostAuthorityScan where
  authorityHeaderVal : Option PyStr
  hostHeaderVal : Option PyStr
  deriving DecidableEq, Repr

/-- The loop body of `_validate_host_authority_header`: it records, never raises. -/
def recordHostAuthority (state : HostAuthorityScan) (header : Header PyStr) :
    Except PyException HostAuthorityScan :=
  .ok <| if header.name ∈ bothForms ":authority" rfl then { state with authorityHeaderVal := header.value }
    else if header.name ∈ bothForms "host" rfl then { state with hostHeaderVal := header.value }
    else state

/-- The checks `_validate_host_authority_header` makes after its loop. -/
def validateHostAuthorityAfter (state : HostAuthorityScan) : Option PyException :=
  match state.authorityHeaderVal, state.hostHeaderVal with
  | none, none => some (.protocolError .missingAuthorityAndHost)
  | some authority, some host =>
    if authority ≠ host then some (.protocolError (.mismatchedAuthorityAndHost authority host)) else none
  | _, _ => none

/-! ### The generators and the two pipelines -/

/-- `_reject_uppercase_header_fields`. -/
def rejectUppercaseHeaderFields (headers : Drained (Header PyStr)) : Drained (Header PyStr) :=
  checkAll rejectUppercaseHeaderField headers

/-- `_reject_surrounding_whitespace`. -/
def rejectSurroundingWhitespace (headers : Drained (Header PyStr)) : Drained (Header PyStr) :=
  checkAll rejectSurroundingWhitespaceField headers

/-- `_reject_te`. -/
def rejectTe (headers : Drained (Header PyStr)) : Drained (Header PyStr) := checkAll rejectTeField headers

/-- `_reject_connection_header`. -/
def rejectConnectionHeader (headers : Drained (Header PyStr)) : Drained (Header PyStr) :=
  checkAll rejectConnectionHeaderField headers

/-- `_reject_pseudo_header_fields`. -/
def rejectPseudoHeaderFields (headers : Drained (Header PyStr)) (flags : HeaderValidationFlags) :
    Drained (Header PyStr) :=
  checkEach rejectPseudoHeaderField (rejectPseudoHeaderFieldsAfter flags) ⟨[], false⟩ headers

/-- `_validate_host_authority_header`. -/
def validateHostAuthorityHeader (headers : Drained (Header PyStr)) : Drained (Header PyStr) :=
  checkEach recordHostAuthority validateHostAuthorityAfter ⟨none, none⟩ headers

/-- `_check_host_authority_header`: skipped for response headers and trailers. -/
def checkHostAuthorityHeader (headers : Drained (Header PyStr)) (flags : HeaderValidationFlags) :
    Drained (Header PyStr) :=
  if flags.isResponseHeader || flags.isTrailer then headers else validateHostAuthorityHeader headers

/-- `_check_sent_host_authority_header`, whose body is that of `_check_host_authority_header`. -/
def checkSentHostAuthorityHeader (headers : Drained (Header PyStr)) (flags : HeaderValidationFlags) :
    Drained (Header PyStr) :=
  checkHostAuthorityHeader headers flags

/-- `validate_headers`: the six generators over `headers`, then `list(...)`. -/
def validateHeaders (headers : List (Header PyStr)) (hdrValidationFlags : HeaderValidationFlags) :
    Except PyException (List (Header PyStr)) :=
  let headers := rejectUppercaseHeaderFields (.ofList headers)
  let headers := rejectSurroundingWhitespace headers
  let headers := rejectTe headers
  let headers := rejectConnectionHeader headers
  let headers := rejectPseudoHeaderFields headers hdrValidationFlags
  let headers := checkHostAuthorityHeader headers hdrValidationFlags
  headers.toList

/-- `validate_outbound_headers`: a generator, to be consumed by the caller. -/
def validateOutboundHeaders (headers : List (Header PyStr)) (hdrValidationFlags : HeaderValidationFlags) :
    Drained (Header PyStr) :=
  let headers := rejectTe (.ofList headers)
  let headers := rejectConnectionHeader headers
  let headers := rejectPseudoHeaderFields headers hdrValidationFlags
  checkSentHostAuthorityHeader headers hdrValidationFlags

/-! ### `_reject_pseudo_header_fields` -/

/-- The pseudo-header names of a block, in order. -/
def pseudoNamesOf (headers : List (Header PyStr)) : List PyStr :=
  (headers.map (·.name)).filter isPseudoHeaderName

/-- No pseudo-header follows a regular header. -/
def PseudoHeadersFirst (headers : List (Header PyStr)) : Prop :=
  headers.Pairwise fun x y => isPseudoHeaderName y.name → isPseudoHeaderName x.name

section
variable {x : Header PyStr} {xs : List (Header PyStr)}

@[simp] theorem pseudoNamesOf_nil : pseudoNamesOf [] = [] := rfl

theorem pseudoNamesOf_cons_of_pseudo (pseudo : isPseudoHeaderName x.name) :
    pseudoNamesOf (x :: xs) = x.name :: pseudoNamesOf xs := by
  simp [pseudoNamesOf, List.filter_cons, pseudo]

theorem pseudoNamesOf_cons_of_regular (regular : isPseudoHeaderName x.name = false) :
    pseudoNamesOf (x :: xs) = pseudoNamesOf xs := by
  simp [pseudoNamesOf, List.filter_cons, regular]

theorem pseudoNamesOf_eq_nil : pseudoNamesOf xs = [] ↔ ∀ y ∈ xs, isPseudoHeaderName y.name = false := by
  simp [pseudoNamesOf, List.filter_eq_nil_iff]

theorem pseudoHeadersFirst_cons_of_pseudo (pseudo : isPseudoHeaderName x.name) :
    PseudoHeadersFirst (x :: xs) ↔ PseudoHeadersFirst xs := by
  simp [PseudoHeadersFirst, List.pairwise_cons, pseudo]

theorem pseudoHeadersFirst_cons_of_regular (regular : isPseudoHeaderName x.name = false) :
    PseudoHeadersFirst (x :: xs) ↔ pseudoNamesOf xs = [] ∧ PseudoHeadersFirst xs := by
  rw [PseudoHeadersFirst, List.pairwise_cons, pseudoNamesOf_eq_nil, regular]
  simp only [Bool.false_eq_true, imp_false, Bool.not_eq_true, PseudoHeadersFirst]
end

theorem rejectPseudoHeaderField_eq_ok {state s' : PseudoHeaderScan} {x : Header PyStr} :
    rejectPseudoHeaderField state x = .ok s' ↔
      if isPseudoHeaderName x.name then
        x.name ∉ state.seenPseudoHeaderFields ∧ state.seenRegularHeader = false ∧
          x.name ∈ allowedPseudoHeaderFields ∧ s' = { state with seenPseudoHeaderFields := x.name :: state.seenPseudoHeaderFields }
      else s' = { state with seenRegularHeader := true } := by
  unfold rejectPseudoHeaderField
  by_cases pseudo : isPseudoHeaderName x.name
  · by_cases fresh : x.name ∈ state.seenPseudoHeaderFields
    · simp only [pseudo, fresh, ↓reduceIte, not_true_eq_false, false_and, reduceCtorEq]
    · by_cases regular : state.seenRegularHeader
      · simp only [pseudo, fresh, regular, ↓reduceIte, not_false_eq_true, reduceCtorEq, Bool.true_eq_false, false_and, and_false]
      · by_cases allowed : x.name ∈ allowedPseudoHeaderFields
        · simp only [pseudo, fresh, regular, allowed, ↓reduceIte, not_true_eq_false, not_false_eq_true,
            Except.ok.injEq, true_and, eq_comm, Bool.false_eq_true]
        · simp only [pseudo, fresh, regular, allowed, ↓reduceIte, not_false_eq_true, reduceCtorEq, false_and,
            and_false]
  · simp only [pseudo, ↓reduceIte, Except.ok.injEq, eq_comm, Bool.false_eq_true]

theorem foldlM_rejectPseudoHeaderField {xs : List (Header PyStr)} {seen : List PyStr} {regular : Bool}
    {final : PseudoHeaderScan} (distinct : seen.Nodup) :
    xs.foldlM rejectPseudoHeaderField ⟨seen, regular⟩ = .ok final ↔
      (pseudoNamesOf xs ++ seen).Nodup ∧ (∀ n ∈ pseudoNamesOf xs, n ∈ allowedPseudoHeaderFields) ∧
      (regular = true → pseudoNamesOf xs = []) ∧ PseudoHeadersFirst xs ∧
      final = ⟨(pseudoNamesOf xs).reverse ++ seen, regular || xs.any fun x => !isPseudoHeaderName x.name⟩ := by
  induction xs generalizing seen regular with
  | nil =>
    simp only [List.foldlM_nil, pure, Except.pure, Except.ok.injEq, pseudoNamesOf_nil, List.nil_append,
      List.reverse_nil, List.any_nil, Bool.or_false, List.not_mem_nil, false_implies, implies_true,
      PseudoHeadersFirst, List.Pairwise.nil, true_and, distinct]
    exact eq_comm
  | cons x xs ih =>
    rw [foldlM_cons_eq_ok]
    simp only [rejectPseudoHeaderField_eq_ok]
    by_cases pseudo : isPseudoHeaderName x.name
    · simp only [pseudoNamesOf_cons_of_pseudo pseudo, pseudoHeadersFirst_cons_of_pseudo pseudo, pseudo, ↓reduceIte]
      by_cases fresh : x.name ∈ seen
      · simp only [fresh, not_true_eq_false, false_and, exists_false, false_iff, List.cons_append,
          List.nodup_cons, List.mem_append, or_true]
      rw [List.cons_append, ← List.nodup_middle]
      cases regular
      · simp only [fresh, not_false_eq_true, true_and, and_assoc, exists_and_left, exists_eq_left, List.forall_mem_cons,
          ih (List.nodup_cons.mpr ⟨fresh, distinct⟩), Bool.false_eq_true, false_implies, List.reverse_cons,
          List.append_assoc, List.singleton_append, List.any_cons, pseudo, Bool.not_true, Bool.false_or]
        tauto
      · simp only [Bool.true_eq_false, false_and, and_false, exists_false, false_iff, reduceCtorEq,
          imp_false, not_true_eq_false, not_and, implies_true]
    · simp only [pseudoNamesOf_cons_of_regular (by simpa using pseudo),
        pseudoHeadersFirst_cons_of_regular (by simpa using pseudo), pseudo, Bool.false_eq_true, ↓reduceIte,
        exists_eq_left, ih distinct, List.any_cons, Bool.not_false, Bool.true_or, Bool.or_true, forall_const]
      constructor
      · rintro ⟨nodup, allowed, empty, first, final⟩
        exact ⟨nodup, allowed, fun _ => empty, ⟨empty, first⟩, final⟩
      · rintro ⟨nodup, allowed, -, ⟨empty, first⟩, final⟩
        exact ⟨nodup, allowed, empty, first, final⟩

theorem mem_status_forms {seen : List PyStr} :
    (PyStr.b ":status" ∈ seen ∨ PyStr.u ":status" rfl ∈ seen) ↔ ∃ n ∈ seen, n.codes = ascii ":status" := by
  constructor
  · rintro (mem | mem)
    · exact ⟨_, mem, rfl⟩
    · exact ⟨_, mem, rfl⟩
  · rintro ⟨n, mem, codes⟩
    have forms : n ∈ bothForms ":status" rfl := mem_bothForms.mpr codes
    simp only [bothForms, List.mem_cons, List.mem_singleton, List.not_mem_nil, or_false] at forms
    rcases forms with rfl | rfl
    · exact .inl mem
    · exact .inr mem

/-- What `_reject_pseudo_header_fields` accepts. -/
structure PseudoHeadersValid (flags : HeaderValidationFlags) (headers : List (Header PyStr)) : Prop where
  distinct : (pseudoNamesOf headers).Nodup
  allowed : ∀ n ∈ pseudoNamesOf headers, n ∈ allowedPseudoHeaderFields
  first : PseudoHeadersFirst headers
  notInTrailer : flags.isTrailer = true → pseudoNamesOf headers = []
  status : flags.isResponseHeader = true → ∃ n ∈ pseudoNamesOf headers, n.codes = ascii ":status"

theorem rejectPseudoHeaderFieldsAfter_eq_none {flags : HeaderValidationFlags} {state : PseudoHeaderScan} :
    rejectPseudoHeaderFieldsAfter flags state = none ↔
      (flags.isTrailer = true → state.seenPseudoHeaderFields = []) ∧
      (flags.isResponseHeader = true → ∃ n ∈ state.seenPseudoHeaderFields, n.codes = ascii ":status") := by
  rw [rejectPseudoHeaderFieldsAfter, ← mem_status_forms]
  by_cases trailer : flags.isTrailer = true <;> by_cases response : flags.isResponseHeader = true <;>
    by_cases empty : state.seenPseudoHeaderFields = [] <;> simp [trailer, response, empty, or_iff_not_imp_left]

section
variable {flags : HeaderValidationFlags} {headers : Drained (Header PyStr)}

theorem rejectPseudoHeaderFields_of_valid (valid : PseudoHeadersValid flags headers.yielded) :
    rejectPseudoHeaderFields headers flags = headers := by
  have fold : headers.yielded.foldlM rejectPseudoHeaderField ⟨[], false⟩ =
      .ok ⟨(pseudoNamesOf headers.yielded).reverse ++ [],
        false || headers.yielded.any fun x => !isPseudoHeaderName x.name⟩ :=
    (foldlM_rejectPseudoHeaderField List.nodup_nil).mpr
      ⟨by simpa using valid.distinct, valid.allowed, nofun, valid.first, rfl⟩
  have after : rejectPseudoHeaderFieldsAfter flags ⟨(pseudoNamesOf headers.yielded).reverse ++ [],
      false || headers.yielded.any fun x => !isPseudoHeaderName x.name⟩ = none :=
    rejectPseudoHeaderFieldsAfter_eq_none.mpr
      ⟨fun trailer => by simp [valid.notInTrailer trailer], fun response => by simpa using valid.status response⟩
  rw [rejectPseudoHeaderFields, checkEach_of_ok fold, after, Option.or_none]

theorem rejectPseudoHeaderFields_raised_eq_none (ended : (rejectPseudoHeaderFields headers flags).raised = none) :
    rejectPseudoHeaderFields headers flags = headers ∧ headers.raised = none ∧
      PseudoHeadersValid flags headers.yielded := by
  obtain ⟨sourceEnded, -, final, fold, after⟩ := checkEach_raised_eq_none ended
  obtain ⟨distinct, allowed, -, first, rfl⟩ := (foldlM_rejectPseudoHeaderField List.nodup_nil).mp fold
  obtain ⟨notInTrailer, status⟩ := rejectPseudoHeaderFieldsAfter_eq_none.mp after
  have valid : PseudoHeadersValid flags headers.yielded :=
    ⟨by simpa using distinct, allowed, first, fun trailer => by simpa using notInTrailer trailer,
      fun response => by simpa using status response⟩
  exact ⟨rejectPseudoHeaderFields_of_valid valid, sourceEnded, valid⟩
end

/-! ### `_validate_host_authority_header` -/

/-- The value of the last header of `headers` whose name is in `names`. -/
def lastValueOf (names : List PyStr) (headers : List (Header PyStr)) : Option PyStr :=
  (headers.reverse.find? fun h => h.name ∈ names).map (·.value)

theorem lastValueOf_cons {names : List PyStr} {x : Header PyStr} {xs : List (Header PyStr)} :
    lastValueOf names (x :: xs) = (lastValueOf names xs).or (if x.name ∈ names then some x.value else none) := by
  by_cases named : x.name ∈ names <;> simp [lastValueOf, List.find?_append, Option.map_or', named]

theorem foldlM_recordHostAuthority (headers : List (Header PyStr)) (state : HostAuthorityScan) :
    headers.foldlM recordHostAuthority state =
      .ok ⟨(lastValueOf (bothForms ":authority" rfl) headers).or state.authorityHeaderVal,
        (lastValueOf (bothForms "host" rfl) headers).or state.hostHeaderVal⟩ := by
  induction headers generalizing state with
  | nil => rfl
  | cons x xs ih =>
    rw [foldlM_cons_ok rfl, ih, lastValueOf_cons, lastValueOf_cons]
    by_cases authority : x.name ∈ bothForms ":authority" rfl
    · have notHost : x.name ∉ bothForms "host" rfl := by
        rw [mem_bothForms] at authority ⊢; rw [authority]; decide
      simp [authority, notHost, Option.or_assoc]
    · by_cases host : x.name ∈ bothForms "host" rfl <;> simp [authority, host, Option.or_assoc]

theorem validateHostAuthorityAfter_eq_none {state : HostAuthorityScan} :
    validateHostAuthorityAfter state = none ↔
      (state.authorityHeaderVal.isSome ∨ state.hostHeaderVal.isSome) ∧
        ∀ a h, state.authorityHeaderVal = some a → state.hostHeaderVal = some h → a = h := by
  rcases state with ⟨_ | a, _ | h⟩ <;> simp [validateHostAuthorityAfter]

/-- What `_check_host_authority_header` accepts: unless the block is a response header block
or a trailer, an `:authority` or a `Host` header, and the last of each agree when both are. -/
def HostAuthorityAgree (flags : HeaderValidationFlags) (headers : List (Header PyStr)) : Prop :=
  (flags.isResponseHeader || flags.isTrailer) = false →
    ((lastValueOf (bothForms ":authority" rfl) headers).isSome ∨
      (lastValueOf (bothForms "host" rfl) headers).isSome) ∧
    ∀ a h, lastValueOf (bothForms ":authority" rfl) headers = some a →
      lastValueOf (bothForms "host" rfl) headers = some h → a = h

section
variable {flags : HeaderValidationFlags} {headers : Drained (Header PyStr)}

theorem validateHostAuthorityHeader_of_agree
    (agree : HostAuthorityAgree flags headers.yielded) (checked : (flags.isResponseHeader || flags.isTrailer) = false) :
    validateHostAuthorityHeader headers = headers := by
  have after : validateHostAuthorityAfter ⟨(lastValueOf (bothForms ":authority" rfl) headers.yielded).or none,
      (lastValueOf (bothForms "host" rfl) headers.yielded).or none⟩ = none :=
    validateHostAuthorityAfter_eq_none.mpr (by simpa using agree checked)
  rw [validateHostAuthorityHeader, checkEach_of_ok (foldlM_recordHostAuthority _ _), after, Option.or_none]

theorem checkHostAuthorityHeader_of_agree (agree : HostAuthorityAgree flags headers.yielded) :
    checkHostAuthorityHeader headers flags = headers := by
  by_cases skipped : (flags.isResponseHeader || flags.isTrailer) = true
  · rw [checkHostAuthorityHeader, if_pos skipped]
  · rw [checkHostAuthorityHeader, if_neg skipped,
      validateHostAuthorityHeader_of_agree agree (by simpa using skipped)]

theorem checkHostAuthorityHeader_raised_eq_none (ended : (checkHostAuthorityHeader headers flags).raised = none) :
    checkHostAuthorityHeader headers flags = headers ∧ headers.raised = none ∧
      HostAuthorityAgree flags headers.yielded := by
  by_cases skipped : (flags.isResponseHeader || flags.isTrailer) = true
  · rw [checkHostAuthorityHeader, if_pos skipped] at ended ⊢
    exact ⟨rfl, ended, fun checked => by simp [checked] at skipped⟩
  · rw [checkHostAuthorityHeader, if_neg skipped] at ended
    obtain ⟨sourceEnded, -, final, fold, after⟩ := checkEach_raised_eq_none ended
    rw [foldlM_recordHostAuthority, Except.ok.injEq] at fold
    subst fold
    have agree : HostAuthorityAgree flags headers.yielded := fun _ => by
      simpa using validateHostAuthorityAfter_eq_none.mp after
    exact ⟨checkHostAuthorityHeader_of_agree agree, sourceEnded, agree⟩
end
end H2.Utilities
