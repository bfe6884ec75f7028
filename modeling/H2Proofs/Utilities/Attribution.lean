import H2Proofs.Utilities.Pipeline

/-!
# Which header an exception is about

Every check on one header raises an exception naming that header (`PyException.Blames`), the
final checks one about the block (`PyException.AboutBlock`); so `validate_outbound_headers`,
having yielded `k` headers, raises about header `k` or the block (`header_errors_name_their_header`).
-/

namespace H2.Utilities

/-- An exception raised by a check on `h`, naming it. -/
def PyException.Blames (h : Header PyStr) : PyException → Prop
  | .typeError => h.name.isBytes = false
  | .indexError => h.name.codes = []
  | .protocolError (.uppercaseName n) => n = h.name
  | .protocolError (.nameSurroundedByWhitespace n) => n = h.name
  | .protocolError (.valueSurroundedByWhitespace v) => v = h.value
  | .protocolError (.invalidTe v) => v = h.value
  | .protocolError (.connectionSpecific n) => n = h.name
  | .protocolError (.duplicatePseudoHeader n) => n = h.name
  | .protocolError (.pseudoHeaderOutOfSequence n) => n = h.name
  | .protocolError (.customPseudoHeader n) => n = h.name
  | .protocolError _ => False

/-- One of the problems found after the last header. -/
def PyException.AboutBlock : PyException → Prop
  | .protocolError (.pseudoHeaderInTrailer _) => True
  | .protocolError .missingStatus => True
  | .protocolError .missingAuthorityAndHost => True
  | .protocolError (.mismatchedAuthorityAndHost _ _) => True
  | _ => False

section
variable {h : Header PyStr} {e : PyException}

theorem blames_of_rejectUppercaseHeaderField (failed : rejectUppercaseHeaderField h = .error e) : e.Blames h := by
  unfold rejectUppercaseHeaderField at failed
  split at failed
  · split_ifs at failed
    cases failed
    rfl
  · rename_i named
    cases failed
    simp [PyException.Blames, named, PyStr.isBytes]

theorem codes_eq_nil_of_endsInWhitespace {s : PyStr} (empty : endsInWhitespace s = none) : s.codes = [] := by
  unfold endsInWhitespace at empty
  split at empty
  · rfl
  · cases empty
  · split_ifs at empty with noCodes
    exact noCodes

theorem blames_of_rejectSurroundingWhitespaceField (failed : rejectSurroundingWhitespaceField h = .error e) :
    e.Blames h := by
  unfold rejectSurroundingWhitespaceField at failed
  split at failed
  · rename_i empty
    cases failed
    exact codes_eq_nil_of_endsInWhitespace empty
  · cases failed
    rfl
  · split_ifs at failed
    cases failed
    rfl

theorem blames_of_rejectPseudoHeaderField {state : PseudoHeaderScan}
    (failed : rejectPseudoHeaderField state h = .error e) : e.Blames h := by
  unfold rejectPseudoHeaderField at failed
  split_ifs at failed <;> cases failed <;> rfl

/-- Every error of the outbound checks on `h` names `h`. -/
theorem blames_of_checkOutboundHeader {state : PseudoHeaderScan × HostAuthorityScan}
    (failed : checkOutboundHeader state h = .error e) : e.Blames h := by
  rcases precheck_eq_error failed with te | rest
  · unfold rejectTeField at te
    split_ifs at te
    cases te
    rfl
  rcases precheck_eq_error rest with connection | scans
  · unfold rejectConnectionHeaderField at connection
    split_ifs at connection
    cases connection
    rfl
  rcases pairChecks_eq_error scans with pseudo | recorded
  · exact blames_of_rejectPseudoHeaderField pseudo
  · cases recorded

theorem blames_of_checkInboundHeader {state : PseudoHeaderScan × HostAuthorityScan}
    (failed : checkInboundHeader state h = .error e) : e.Blames h := by
  rcases precheck_eq_error failed with uppercase | rest
  · exact blames_of_rejectUppercaseHeaderField uppercase
  rcases precheck_eq_error rest with whitespace | outbound
  · exact blames_of_rejectSurroundingWhitespaceField whitespace
  · exact blames_of_checkOutboundHeader outbound

theorem aboutBlock_of_rejectPseudoHeaderFieldsAfter {flags : HeaderValidationFlags} {state : PseudoHeaderScan}
    (ended : rejectPseudoHeaderFieldsAfter flags state = some e) : e.AboutBlock := by
  unfold rejectPseudoHeaderFieldsAfter at ended
  split_ifs at ended <;> cases ended <;> trivial

theorem aboutBlock_of_checkHostAuthorityAfter {flags : HeaderValidationFlags} {state : HostAuthorityScan}
    (ended : checkHostAuthorityAfter flags state = some e) : e.AboutBlock := by
  unfold checkHostAuthorityAfter at ended
  split_ifs at ended
  rcases state with ⟨_ | authority, _ | host⟩ <;> simp only [validateHostAuthorityAfter] at ended
  · cases ended
    trivial
  · cases ended
  · cases ended
  · split_ifs at ended
    cases ended
    trivial

theorem aboutBlock_of_finishHeaderBlock {flags : HeaderValidationFlags} {state : PseudoHeaderScan × HostAuthorityScan}
    (ended : finishHeaderBlock flags state = some e) : e.AboutBlock := by
  rcases Option.or_eq_some.mp ended with pseudo | ⟨-, hostAuthority⟩
  · exact aboutBlock_of_rejectPseudoHeaderFieldsAfter pseudo
  · exact aboutBlock_of_checkHostAuthorityAfter hostAuthority

end

/-- Where each exception comes from. `validate_headers` raises about a header of the block or
about the block as a whole. `validate_outbound_headers`, after yielding `k` headers, raises
about header `k`, the first it did not yield, or, when it yielded every header, about the
block. -/
theorem header_errors_name_their_header (headers : List (Header PyStr)) (flags : HeaderValidationFlags)
    (e : PyException) :
    (validateHeaders headers flags = .error e → (∃ h ∈ headers, e.Blames h) ∨ e.AboutBlock) ∧
      ((validateOutboundHeaders headers flags).raised = some e →
        (∃ h, headers[(validateOutboundHeaders headers flags).yielded.length]? = some h ∧ e.Blames h) ∨
          ((validateOutboundHeaders headers flags).yielded = headers ∧ e.AboutBlock)) := by
  refine ⟨fun raised => ?_, fun raised => ?_⟩
  · rw [validateHeaders_eq_checkLoop, Drained.toList_eq_error] at raised
    rcases checkLoop_raised_cases raised with ⟨h, state, found, failed⟩ | ⟨-, state, ended⟩
    · exact .inl ⟨h, List.getElem?_mem found, blames_of_checkInboundHeader failed⟩
    · exact .inr (aboutBlock_of_finishHeaderBlock ended)
  · simp only [validateOutboundHeaders, checkSentHostAuthorityHeader, outboundChecks_eq_checkEach, checkEach_ofList]
      at raised ⊢
    rcases checkLoop_raised_cases raised with ⟨h, state, found, failed⟩ | ⟨whole, state, ended⟩
    · exact .inl ⟨h, found, blames_of_checkOutboundHeader failed⟩
    · exact .inr ⟨whole, aboutBlock_of_finishHeaderBlock ended⟩

/-- A request that yields its `:path` header, then raises about the `te` header after it. -/
example : (validateOutboundHeaders [⟨.tuple, .b ":path", .b "/"⟩, ⟨.tuple, .b "te", .b "gzip"⟩]
      ⟨false, false, false, false⟩).yielded = [⟨.tuple, .b ":path", .b "/"⟩] ∧
    (validateOutboundHeaders [⟨.tuple, .b ":path", .b "/"⟩, ⟨.tuple, .b "te", .b "gzip"⟩]
      ⟨false, false, false, false⟩).raised = some (.protocolError (.invalidTe (.b "gzip"))) := by
  decide

end H2.Utilities
