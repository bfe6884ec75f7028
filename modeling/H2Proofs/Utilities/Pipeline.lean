import H2Proofs.Utilities.Validation

/-!
# The pipelines, one header at a time

Each header goes through every generator's check, in their order, before the next is read, and
the final checks run after the last header (`validate_headers_checks_header_by_header`). From this
one-loop form: which checks read a header's value (`header_values_unread`).
-/

namespace H2.Utilities

/-- The final check of `_check_host_authority_header`: nothing on a response header block or a
trailer, which it returns unchanged. -/
def checkHostAuthorityAfter (flags : HeaderValidationFlags) (state : HostAuthorityScan) : Option PyException :=
  if flags.isResponseHeader || flags.isTrailer then none else validateHostAuthorityAfter state

/-- The checks run once the last header has passed every generator: the pseudo-header scan's,
then that of `_check_host_authority_header`. -/
def finishHeaderBlock (flags : HeaderValidationFlags) (state : PseudoHeaderScan × HostAuthorityScan) :
    Option PyException :=
  (rejectPseudoHeaderFieldsAfter flags state.1).or (checkHostAuthorityAfter flags state.2)

/-- One header through the generators of `validate_outbound_headers`, in their order. -/
def checkOutboundHeader : PseudoHeaderScan × HostAuthorityScan → Header PyStr →
    Except PyException (PseudoHeaderScan × HostAuthorityScan) :=
  precheck rejectTeField (precheck rejectConnectionHeaderField (pairChecks rejectPseudoHeaderField recordHostAuthority))

/-- One header through the six generators of `validate_headers`: the uppercase and surrounding
whitespace checks, then those of `validate_outbound_headers`. -/
def checkInboundHeader : PseudoHeaderScan × HostAuthorityScan → Header PyStr →
    Except PyException (PseudoHeaderScan × HostAuthorityScan) :=
  precheck rejectUppercaseHeaderField (precheck rejectSurroundingWhitespaceField checkOutboundHeader)

/-- `_check_host_authority_header` is one loop in every case: when it skips, the recording loop
with no final check returns its source as it is. -/
theorem checkHostAuthorityHeader_eq_checkEach (headers : Drained (Header PyStr)) (flags : HeaderValidationFlags) :
    checkHostAuthorityHeader headers flags =
      checkEach recordHostAuthority (checkHostAuthorityAfter flags) ⟨none, none⟩ headers := by
  by_cases skipped : (flags.isResponseHeader || flags.isTrailer) = true
  · rw [checkHostAuthorityHeader, if_pos skipped, checkEach_of_ok (foldlM_recordHostAuthority _ _)]
    simp [checkHostAuthorityAfter, skipped]
  · have checked : checkHostAuthorityAfter flags = validateHostAuthorityAfter := funext fun _ => if_neg skipped
    rw [checkHostAuthorityHeader, if_neg skipped, validateHostAuthorityHeader, checked]

/-- The four generators both pipelines end with, over any source, are one loop. -/
theorem outboundChecks_eq_checkEach (source : Drained (Header PyStr)) (flags : HeaderValidationFlags) :
    checkHostAuthorityHeader (rejectPseudoHeaderFields (rejectConnectionHeader (rejectTe source)) flags) flags =
      checkEach checkOutboundHeader (finishHeaderBlock flags) (⟨[], false⟩, ⟨none, none⟩) source := by
  simp only [checkHostAuthorityHeader_eq_checkEach, rejectPseudoHeaderFields, checkEach_checkEach,
    rejectConnectionHeader, checkEach_checkAll, rejectTe, pairChecks_precheck]
  rfl

theorem validateHeaders_eq_checkLoop (headers : List (Header PyStr)) (flags : HeaderValidationFlags) :
    validateHeaders headers flags =
      (checkLoop checkInboundHeader (finishHeaderBlock flags) (⟨[], false⟩, ⟨none, none⟩) headers none).toList := by
  simp only [validateHeaders, outboundChecks_eq_checkEach, rejectSurroundingWhitespace, rejectUppercaseHeaderFields,
    checkEach_checkAll]
  rfl

/-- `validate_outbound_headers` is one generator: each header passes the `te`, connection-header,
pseudo-header and `:authority`/`Host` generators in turn before it is yielded and the next is
read, and the final checks run after the last header. -/
theorem validate_outbound_headers_checks_header_by_header (headers : List (Header PyStr))
    (flags : HeaderValidationFlags) :
    validateOutboundHeaders headers flags =
      checkLoop checkOutboundHeader (finishHeaderBlock flags) (⟨[], false⟩, ⟨none, none⟩) headers none := by
  simp only [validateOutboundHeaders, checkSentHostAuthorityHeader, outboundChecks_eq_checkEach, checkEach_ofList]

/-- `validate_headers` reads the block once: it raises the first failing check, in the order of
the generators, of the first header that fails one; when every header passes, it raises what the
final checks raise, the pseudo-header scan's first, and otherwise returns the block. -/
theorem validate_headers_checks_header_by_header (headers : List (Header PyStr)) (flags : HeaderValidationFlags) :
    validateHeaders headers flags =
      match headers.foldlM checkInboundHeader (⟨[], false⟩, ⟨none, none⟩) with
      | .error e => .error e
      | .ok state =>
        match finishHeaderBlock flags state with
        | some e => .error e
        | none => .ok headers := by
  rw [validateHeaders_eq_checkLoop]
  cases fold : headers.foldlM checkInboundHeader (⟨[], false⟩, ⟨none, none⟩) with
  | error e =>
    obtain ⟨pre, -, loop⟩ := @checkLoop_of_error _ _ checkInboundHeader (finishHeaderBlock flags) _ _ _ fold none
    rw [loop]
    rfl
  | ok state =>
    rw [checkLoop_of_ok fold, Option.none_or]
    dsimp only
    cases finishHeaderBlock flags state <;> rfl

/-- A `te` header placed before an uppercase name: the `te` generator comes after the uppercase
one, but it sees the first header first. -/
example : validateHeaders [⟨.tuple, .b "te", .b "gzip"⟩, ⟨.tuple, .b "Foo", .b "x"⟩] ⟨false, false, false, false⟩ =
    .error (.protocolError (.invalidTe (.b "gzip"))) := by
  decide

/-- On a block whose headers all pass the uppercase and surrounding-whitespace checks,
`validate_headers` is `list(validate_outbound_headers(...))`: it returns the block when the
outbound checks do, and otherwise raises the very exception they raise. -/
theorem validate_headers_eq_outbound_of_first_checks (headers : List (Header PyStr)) (flags : HeaderValidationFlags)
    (firstChecks : ∀ h ∈ headers, rejectUppercaseHeaderField h = .ok () ∧ rejectSurroundingWhitespaceField h = .ok ()) :
    validateHeaders headers flags = (validateOutboundHeaders headers flags).toList := by
  simp only [validateHeaders_eq_checkLoop, validateOutboundHeaders, checkSentHostAuthorityHeader,
    outboundChecks_eq_checkEach, checkEach_ofList, checkInboundHeader]
  rw [checkLoop_precheck (fun h mem => (firstChecks h mem).1), checkLoop_precheck (fun h mem => (firstChecks h mem).2)]

theorem validate_headers_eq_outbound_of_first_checks_on_te :
    (∀ h ∈ [⟨.tuple, .b ":authority", .b "x"⟩, ⟨.tuple, .b "te", .b "gzip"⟩],
        rejectUppercaseHeaderField h = .ok () ∧ rejectSurroundingWhitespaceField h = .ok ()) ∧
      validateHeaders [⟨.tuple, .b ":authority", .b "x"⟩, ⟨.tuple, .b "te", .b "gzip"⟩] ⟨false, false, false, false⟩ =
        (validateOutboundHeaders [⟨.tuple, .b ":authority", .b "x"⟩, ⟨.tuple, .b "te", .b "gzip"⟩]
          ⟨false, false, false, false⟩).toList :=
  have firstChecks : ∀ h ∈ ([⟨.tuple, .b ":authority", .b "x"⟩, ⟨.tuple, .b "te", .b "gzip"⟩] : List (Header PyStr)),
      rejectUppercaseHeaderField h = .ok () ∧ rejectSurroundingWhitespaceField h = .ok () := by decide
  ⟨firstChecks, validate_headers_eq_outbound_of_first_checks _ _ firstChecks⟩

/-! ### What the checks read of a value -/

section Values

variable {kind : TupleKind} {name : PyStr}

/-- Outside `te`, `:authority` and `host`, the outbound checks of a header read its name only. -/
theorem checkOutboundHeader_value
    (unread : name ∉ bothForms "te" rfl ∧ name ∉ bothForms ":authority" rfl ∧ name ∉ bothForms "host" rfl)
    (state : PseudoHeaderScan × HostAuthorityScan) (value value' : PyStr) :
    checkOutboundHeader state ⟨kind, name, value'⟩ = checkOutboundHeader state ⟨kind, name, value⟩ := by
  simp only [checkOutboundHeader, precheck, pairChecks, rejectTeField, recordHostAuthority, unread, false_and,
    if_false]
  rfl

/-- `header[1][0]` of a `str` is a `str`, never one of the integers of `_WHITESPACE`: the
whitespace check passes every text value. -/
theorem rejectSurroundingWhitespaceField_str_value (t t' : Text) :
    rejectSurroundingWhitespaceField ⟨kind, name, .str t'⟩ = rejectSurroundingWhitespaceField ⟨kind, name, .str t⟩ := by
  have passes : ∀ t : Text, endsInWhitespace (.str t) ≠ some true := fun t => by
    simp only [endsInWhitespace]
    split_ifs <;> simp
  simp only [rejectSurroundingWhitespaceField]
  rcases endsInWhitespace name with _ | _ | _ <;> simp [passes]

theorem checkInboundHeader_str_value
    (unread : name ∉ bothForms "te" rfl ∧ name ∉ bothForms ":authority" rfl ∧ name ∉ bothForms "host" rfl)
    (state : PseudoHeaderScan × HostAuthorityScan) (t t' : Text) :
    checkInboundHeader state ⟨kind, name, .str t'⟩ = checkInboundHeader state ⟨kind, name, .str t⟩ := by
  simp only [checkInboundHeader, precheck, rejectSurroundingWhitespaceField_str_value t t',
    checkOutboundHeader_value unread state (.str t) (.str t')]
  rfl

end Values

/-- A header's value is read only by the `te` check and the `:authority`/`Host` scan, and, in
`validate_headers`, by the surrounding-whitespace check on octet values. For any other header,
`validate_headers` gives the same verdict whatever its text value, and
`validate_outbound_headers` yields as far and raises the same exception whatever its value. -/
theorem header_values_unread (pre post : List (Header PyStr)) (kind : TupleKind) (name : PyStr)
    (unread : name ∉ bothForms "te" rfl ∧ name ∉ bothForms ":authority" rfl ∧ name ∉ bothForms "host" rfl)
    (flags : HeaderValidationFlags) :
    (∀ value value' : Text, validateHeaders (pre ++ ⟨kind, name, .str value'⟩ :: post) flags =
        (validateHeaders (pre ++ ⟨kind, name, .str value⟩ :: post) flags).map
          fun _ => pre ++ ⟨kind, name, .str value'⟩ :: post) ∧
    ∀ value value' : PyStr,
      (validateOutboundHeaders (pre ++ ⟨kind, name, value'⟩ :: post) flags).raised =
          (validateOutboundHeaders (pre ++ ⟨kind, name, value⟩ :: post) flags).raised ∧
        (validateOutboundHeaders (pre ++ ⟨kind, name, value'⟩ :: post) flags).yielded =
          (pre ++ ⟨kind, name, value'⟩ :: post).take
            (validateOutboundHeaders (pre ++ ⟨kind, name, value⟩ :: post) flags).yielded.length := by
  refine ⟨fun value value' => ?_, fun value value' => ?_⟩
  · obtain ⟨sameEnd, yielded⟩ := @checkLoop_replace _ _ checkInboundHeader (finishHeaderBlock flags)
      ⟨kind, name, .str value⟩ ⟨kind, name, .str value'⟩
      (fun state => checkInboundHeader_str_value unread state value value') pre post (⟨[], false⟩, ⟨none, none⟩) none
    rw [validateHeaders_eq_checkLoop, validateHeaders_eq_checkLoop]
    cases ended : (checkLoop checkInboundHeader (finishHeaderBlock flags) (⟨[], false⟩, ⟨none, none⟩)
        (pre ++ ⟨kind, name, .str value⟩ :: post) none).raised with
    | some e => simp only [Drained.toList, sameEnd, ended]; rfl
    | none =>
      simp only [Drained.toList, sameEnd, ended, yielded, checkLoop_yielded_of_ended ended]
      rw [List.take_of_length_le (by simp)]
      rfl
  · simp only [validateOutboundHeaders, checkSentHostAuthorityHeader, outboundChecks_eq_checkEach, checkEach_ofList]
    exact checkLoop_replace (fun state => checkOutboundHeader_value unread state value value') pre post _ none

theorem header_values_unread_on_token :
    (PyStr.b "x-token" ∉ bothForms "te" rfl ∧ PyStr.b "x-token" ∉ bothForms ":authority" rfl ∧
        PyStr.b "x-token" ∉ bothForms "host" rfl) ∧
      ((∀ value value' : Text, validateHeaders [⟨.tuple, .b "x-token", .str value'⟩] ⟨false, false, false, false⟩ =
          (validateHeaders [⟨.tuple, .b "x-token", .str value⟩] ⟨false, false, false, false⟩).map
            fun _ => [⟨.tuple, .b "x-token", .str value'⟩]) ∧
      ∀ value value' : PyStr,
        (validateOutboundHeaders [⟨.tuple, .b "x-token", value'⟩] ⟨false, false, false, false⟩).raised =
            (validateOutboundHeaders [⟨.tuple, .b "x-token", value⟩] ⟨false, false, false, false⟩).raised ∧
          (validateOutboundHeaders [⟨.tuple, .b "x-token", value'⟩] ⟨false, false, false, false⟩).yielded =
            List.take (validateOutboundHeaders [⟨.tuple, .b "x-token", value⟩] ⟨false, false, false, false⟩).yielded.length
              [⟨.tuple, .b "x-token", value'⟩]) :=
  have unread : PyStr.b "x-token" ∉ bothForms "te" rfl ∧ PyStr.b "x-token" ∉ bothForms ":authority" rfl ∧
      PyStr.b "x-token" ∉ bothForms "host" rfl := by decide
  ⟨unread, header_values_unread [] [] .tuple (.b "x-token") unread ⟨false, false, false, false⟩⟩

/-- A text value with surrounding spaces passes `validate_headers`, where the same octets would
not. -/
example : validateHeaders [⟨.tuple, .b ":authority", .b "x"⟩, ⟨.tuple, .b "x-token", .u " padded " rfl⟩]
      ⟨false, false, false, false⟩ =
    .ok [⟨.tuple, .b ":authority", .b "x"⟩, ⟨.tuple, .b "x-token", .u " padded " rfl⟩] := by
  decide

example : validateHeaders [⟨.tuple, .b ":authority", .b "x"⟩, ⟨.tuple, .b "x-token", .b " padded "⟩]
      ⟨false, false, false, false⟩ =
    .error (.protocolError (.valueSurroundedByWhitespace (.b " padded "))) := by
  decide

end H2.Utilities
