import H2Proofs.Utilities.Validation

/-!
# What the two validators accept

Which blocks the lazy pipelines accept, check by check (`validateHeaders_eq_ok`). On octet blocks
these are the spec's six conditions, and `validate_headers_accepts_exactly` is the exact
acceptance of both validators; every other run raises `ProtocolError`, barring an empty name.
-/

namespace H2.Utilities

/-! ### The pipelines, check by check -/

/-- What the generators of `validate_outbound_headers` accept, check by check. -/
structure OutboundChecksPass (flags : HeaderValidationFlags) (headers : List (Header PyStr)) : Prop where
  te : ∀ h ∈ headers, rejectTeField h = .ok ()
  connection : ∀ h ∈ headers, rejectConnectionHeaderField h = .ok ()
  pseudo : PseudoHeadersValid flags headers
  hostAuthority : HostAuthorityAgree flags headers

/-- What the generators of `validate_headers` accept, check by check. -/
structure InboundChecksPass (flags : HeaderValidationFlags) (headers : List (Header PyStr))
    extends OutboundChecksPass flags headers : Prop where
  uppercase : ∀ h ∈ headers, rejectUppercaseHeaderField h = .ok ()
  whitespace : ∀ h ∈ headers, rejectSurroundingWhitespaceField h = .ok ()

section
variable {flags : HeaderValidationFlags} {headers : List (Header PyStr)}

theorem validateOutboundHeaders_of_pass (pass : OutboundChecksPass flags headers) :
    validateOutboundHeaders headers flags = .ofList headers := by
  have te : rejectTe (.ofList headers) = .ofList headers := checkAll_of_forall pass.te
  have connection : rejectConnectionHeader (.ofList headers) = .ofList headers := checkAll_of_forall pass.connection
  have pseudo : rejectPseudoHeaderFields (.ofList headers) flags = .ofList headers :=
    rejectPseudoHeaderFields_of_valid pass.pseudo
  rw [validateOutboundHeaders, te, connection, pseudo, checkSentHostAuthorityHeader,
    checkHostAuthorityHeader_of_agree pass.hostAuthority]

theorem outboundChecksPass_of_raised_eq_none (ended : (validateOutboundHeaders headers flags).raised = none) :
    OutboundChecksPass flags headers := by
  obtain ⟨-, ended, hostAuthority⟩ := checkHostAuthorityHeader_raised_eq_none ended
  obtain ⟨pseudoSame, ended, pseudo⟩ := rejectPseudoHeaderFields_raised_eq_none ended
  obtain ⟨connectionSame, ended, connection⟩ := checkAll_raised_eq_none ended
  obtain ⟨teSame, -, te⟩ := checkAll_raised_eq_none ended
  simp only [rejectTe, rejectConnectionHeader] at *
  rw [pseudoSame, connectionSame, teSame] at hostAuthority
  rw [connectionSame, teSame] at pseudo
  rw [teSame] at connection
  exact ⟨te, connection, pseudo, hostAuthority⟩

theorem validateOutboundHeaders_toList_eq_ok {ys : List (Header PyStr)} :
    (validateOutboundHeaders headers flags).toList = .ok ys ↔ OutboundChecksPass flags headers ∧ ys = headers := by
  constructor
  · intro ok
    have pass := outboundChecksPass_of_raised_eq_none (Drained.toList_eq_ok.mp ok).1
    rw [validateOutboundHeaders_of_pass pass, Drained.toList_ofList, Except.ok.injEq] at ok
    exact ⟨pass, ok.symm⟩
  · rintro ⟨pass, rfl⟩
    rw [validateOutboundHeaders_of_pass pass, Drained.toList_ofList]

theorem validateHeaders_of_pass (pass : InboundChecksPass flags headers) :
    validateHeaders headers flags = .ok headers := by
  have uppercase : rejectUppercaseHeaderFields (.ofList headers) = .ofList headers := checkAll_of_forall pass.uppercase
  have whitespace : rejectSurroundingWhitespace (.ofList headers) = .ofList headers :=
    checkAll_of_forall pass.whitespace
  have te : rejectTe (.ofList headers) = .ofList headers := checkAll_of_forall pass.te
  have connection : rejectConnectionHeader (.ofList headers) = .ofList headers := checkAll_of_forall pass.connection
  have pseudo : rejectPseudoHeaderFields (.ofList headers) flags = .ofList headers :=
    rejectPseudoHeaderFields_of_valid pass.pseudo
  rw [validateHeaders, uppercase, whitespace, te, connection, pseudo,
    checkHostAuthorityHeader_of_agree pass.hostAuthority, Drained.toList_ofList]

theorem validateHeaders_eq_ok {ys : List (Header PyStr)} :
    validateHeaders headers flags = .ok ys ↔ InboundChecksPass flags headers ∧ ys = headers := by
  constructor
  · intro ok
    obtain ⟨-, ended, hostAuthority⟩ := checkHostAuthorityHeader_raised_eq_none (Drained.toList_eq_ok.mp ok).1
    obtain ⟨pseudoSame, ended, pseudo⟩ := rejectPseudoHeaderFields_raised_eq_none ended
    obtain ⟨connectionSame, ended, connection⟩ := checkAll_raised_eq_none ended
    obtain ⟨teSame, ended, te⟩ := checkAll_raised_eq_none ended
    obtain ⟨whitespaceSame, ended, whitespace⟩ := checkAll_raised_eq_none ended
    obtain ⟨uppercaseSame, -, uppercase⟩ := checkAll_raised_eq_none ended
    simp only [rejectUppercaseHeaderFields, rejectSurroundingWhitespace, rejectTe, rejectConnectionHeader] at *
    rw [pseudoSame, connectionSame, teSame, whitespaceSame, uppercaseSame] at hostAuthority
    rw [connectionSame, teSame, whitespaceSame, uppercaseSame] at pseudo
    rw [teSame, whitespaceSame, uppercaseSame] at connection
    rw [whitespaceSame, uppercaseSame] at te
    rw [uppercaseSame] at whitespace
    have pass : InboundChecksPass flags headers := ⟨⟨te, connection, pseudo, hostAuthority⟩, uppercase, whitespace⟩
    rw [validateHeaders_of_pass pass, Except.ok.injEq] at ok
    exact ⟨pass, ok.symm⟩
  · rintro ⟨pass, rfl⟩
    exact validateHeaders_of_pass pass
end
/-! ### Which exceptions escape -/

theorem isProtocolError_of_rejectTeField {h : Header PyStr} {e : PyException} (raised : rejectTeField h = .error e) :
    e.isProtocolError := by
  unfold rejectTeField at raised; split at raised <;> cases raised; rfl

theorem isProtocolError_of_rejectConnectionHeaderField {h : Header PyStr} {e : PyException}
    (raised : rejectConnectionHeaderField h = .error e) : e.isProtocolError := by
  unfold rejectConnectionHeaderField at raised; split at raised <;> cases raised; rfl

theorem isProtocolError_of_rejectPseudoHeaderField {s : PseudoHeaderScan} {h : Header PyStr} {e : PyException}
    (raised : rejectPseudoHeaderField s h = .error e) : e.isProtocolError := by
  unfold rejectPseudoHeaderField at raised
  repeat' split at raised
  all_goals cases raised <;> rfl

theorem isProtocolError_of_rejectPseudoHeaderFieldsAfter {flags : HeaderValidationFlags} {s : PseudoHeaderScan}
    {e : PyException} (raised : rejectPseudoHeaderFieldsAfter flags s = some e) : e.isProtocolError := by
  unfold rejectPseudoHeaderFieldsAfter at raised
  repeat' split at raised
  all_goals cases raised <;> rfl

theorem isProtocolError_of_validateHostAuthorityAfter {s : HostAuthorityScan} {e : PyException}
    (raised : validateHostAuthorityAfter s = some e) : e.isProtocolError := by
  unfold validateHostAuthorityAfter at raised
  repeat' split at raised
  all_goals cases raised <;> rfl

/-- A drained generator whose items come from `headers` and whose exception, if any, is a
`ProtocolError`. -/
def ProtocolOnly (headers : List (Header PyStr)) (d : Drained (Header PyStr)) : Prop :=
  (∀ x ∈ d.yielded, x ∈ headers) ∧ ∀ e, d.raised = some e → e.isProtocolError

section
variable {σ : Type} {check : σ → Header PyStr → Except PyException σ} {finish : σ → Option PyException}
  {headers : List (Header PyStr)} {d : Drained (Header PyStr)}

theorem checkEach_protocolOnly (s : σ) (before : ProtocolOnly headers d)
    (fromCheck : ∀ x ∈ headers, ∀ s e, check s x = .error e → e.isProtocolError)
    (fromFinish : ∀ s e, finish s = some e → e.isProtocolError) :
    ProtocolOnly headers (checkEach check finish s d) :=
  ⟨fun x mem => before.1 x ((checkEach_yielded_prefix_of_source s d).subset mem),
    checkEach_raised_of before.2 (fun x mem s e raised => fromCheck x (before.1 x mem) s e raised) fromFinish⟩

theorem checkAll_protocolOnly {c : Header PyStr → Except PyException Unit} (before : ProtocolOnly headers d)
    (fromCheck : ∀ x ∈ headers, ∀ e, c x = .error e → e.isProtocolError) :
    ProtocolOnly headers (checkAll c d) :=
  checkEach_protocolOnly () before (fun x mem _ e raised => fromCheck x mem e raised) nofun

theorem rejectPseudoHeaderFields_protocolOnly (flags : HeaderValidationFlags) (before : ProtocolOnly headers d) :
    ProtocolOnly headers (rejectPseudoHeaderFields d flags) :=
  checkEach_protocolOnly _ before (fun _ _ _ _ => isProtocolError_of_rejectPseudoHeaderField)
    fun _ _ => isProtocolError_of_rejectPseudoHeaderFieldsAfter

theorem checkHostAuthorityHeader_protocolOnly (flags : HeaderValidationFlags) (before : ProtocolOnly headers d) :
    ProtocolOnly headers (checkHostAuthorityHeader d flags) := by
  unfold checkHostAuthorityHeader
  split
  · exact before
  · exact checkEach_protocolOnly _ before (fun _ _ _ _ raised => by cases raised)
      fun _ _ => isProtocolError_of_validateHostAuthorityAfter

/-- The last four generators raise nothing but `ProtocolError`. -/
theorem checksThreeToSix_protocolOnly (flags : HeaderValidationFlags) (before : ProtocolOnly headers d) :
    ProtocolOnly headers
      (checkHostAuthorityHeader (rejectPseudoHeaderFields (rejectConnectionHeader (rejectTe d)) flags) flags) := by
  have te : ProtocolOnly headers (rejectTe d) :=
    checkAll_protocolOnly before fun _ _ _ => isProtocolError_of_rejectTeField
  have connection : ProtocolOnly headers (rejectConnectionHeader (rejectTe d)) :=
    checkAll_protocolOnly te fun _ _ _ => isProtocolError_of_rejectConnectionHeaderField
  exact checkHostAuthorityHeader_protocolOnly flags (rejectPseudoHeaderFields_protocolOnly flags connection)
end

theorem validateOutboundHeaders_raised_isProtocolError (headers : List (Header PyStr)) (flags : HeaderValidationFlags) :
    ∀ e, (validateOutboundHeaders headers flags).raised = some e → e.isProtocolError :=
  (checksThreeToSix_protocolOnly flags (show ProtocolOnly headers (.ofList headers) from ⟨fun _ mem => mem, nofun⟩)).2

/-- `validate_headers` raises nothing but `ProtocolError` when its first two checks do not. -/
theorem validateHeaders_error_isProtocolError {headers : List (Header PyStr)} (flags : HeaderValidationFlags)
    (uppercase : ∀ x ∈ headers, ∀ e, rejectUppercaseHeaderField x = .error e → e.isProtocolError)
    (whitespace : ∀ x ∈ headers, ∀ e, rejectSurroundingWhitespaceField x = .error e → e.isProtocolError) :
    ∀ e, validateHeaders headers flags = .error e → e.isProtocolError := by
  intro e raised
  have first : ProtocolOnly headers (rejectUppercaseHeaderFields (.ofList headers)) :=
    checkAll_protocolOnly ⟨fun _ mem => mem, nofun⟩ uppercase
  have second : ProtocolOnly headers (rejectSurroundingWhitespace (rejectUppercaseHeaderFields (.ofList headers))) :=
    checkAll_protocolOnly first whitespace
  exact (checksThreeToSix_protocolOnly flags second).2 e (Drained.toList_eq_error.mp raised)

/-! ### The spec's six checks on octet blocks -/

/-- A name that begins with `b':'`. -/
def isPseudoName (name : Bytes) : Bool := (ascii ":").isPrefixOf name

/-- The pseudo-header names of an octet block, in order. -/
def pseudoNames (block : List (Header Bytes)) : List Bytes := (block.map (·.name)).filter isPseudoName

/-- The value of the last header of `block` named `name`. -/
def lastValue (name : Bytes) (block : List (Header Bytes)) : Option Bytes :=
  (block.reverse.find? fun h => h.name = name).map (·.value)

/-- Check 5 of the spec: pseudo-header discipline. -/
structure PseudoDiscipline (flags : HeaderValidationFlags) (block : List (Header Bytes)) : Prop where
  distinct : (pseudoNames block).Nodup
  allowed : ∀ n ∈ pseudoNames block, n ∈ pseudoHeaderNames
  first : block.Pairwise fun x y => isPseudoName y.name → isPseudoName x.name
  notInTrailer : flags.isTrailer = true → pseudoNames block = []
  status : flags.isResponseHeader = true → ascii ":status" ∈ pseudoNames block

/-- Check 6 of the spec: unless the block is a response header block or a trailer, it has an
`:authority` or a `Host` header, and the last of each agree when it has both. -/
def AuthorityAgreement (flags : HeaderValidationFlags) (block : List (Header Bytes)) : Prop :=
  (flags.isResponseHeader || flags.isTrailer) = false →
    ((lastValue (ascii ":authority") block).isSome ∨ (lastValue (ascii "host") block).isSome) ∧
    ∀ a h, lastValue (ascii ":authority") block = some a → lastValue (ascii "host") block = some h → a = h

/-- Checks 3 to 6 of the spec, which `validate_outbound_headers` enforces. -/
structure OutboundWellFormed (flags : HeaderValidationFlags) (block : List (Header Bytes)) : Prop where
  te : ∀ h ∈ block, h.name = ascii "te" → h.value.map lowerOctet = ascii "trailers"
  noConnectionHeaders : ∀ h ∈ block, h.name ∉ connectionNames
  pseudo : PseudoDiscipline flags block
  authority : AuthorityAgreement flags block

/-- All six checks of the spec, which `validate_headers` enforces. -/
structure InboundWellFormed (flags : HeaderValidationFlags) (block : List (Header Bytes))
    extends OutboundWellFormed flags block : Prop where
  lowercase : ∀ h ∈ block, ∀ c ∈ h.name, isUpper c = false
  noSurroundingWhitespace :
    ∀ h ∈ block, surroundedBy isWhitespace h.name = false ∧ surroundedBy isWhitespace h.value = false

section
variable {flags : HeaderValidationFlags} {block : List (Header Bytes)} {h : Header Bytes}

theorem pseudoNamesOf_map_ofBytes : pseudoNamesOf (block.map Header.ofBytes) = (pseudoNames block).map .bytes := by
  simp only [pseudoNamesOf, pseudoNames, List.map_map, List.filter_map]
  rfl

theorem lastValueOf_map_ofBytes (s : String) (isAscii : (ascii s).all (·.val < 128) = true) :
    lastValueOf (bothForms s isAscii) (block.map Header.ofBytes) = (lastValue (ascii s) block).map .bytes := by
  simp only [lastValueOf, lastValue, ← List.map_reverse, List.find?_map, Option.map_map]
  congr 2
  funext x
  simp [mem_bothForms]

theorem rejectTeField_ofBytes :
    rejectTeField h.ofBytes = .ok () ↔ (h.name = ascii "te" → h.value.map lowerOctet = ascii "trailers") := by
  simp [rejectTeField, mem_bothForms]

theorem rejectConnectionHeaderField_ofBytes :
    rejectConnectionHeaderField h.ofBytes = .ok () ↔ h.name ∉ connectionNames := by
  simp [rejectConnectionHeaderField, mem_connectionHeaders]

theorem rejectUppercaseHeaderField_ofBytes :
    rejectUppercaseHeaderField h.ofBytes = .ok () ↔ ∀ c ∈ h.name, isUpper c = false := by
  simp [rejectUppercaseHeaderField]

theorem endsInWhitespace_bytes (b : Bytes) :
    endsInWhitespace (.bytes b) = some true ↔ surroundedBy isWhitespace b = true := by
  cases b <;> simp [endsInWhitespace, surroundedBy]

theorem endsInWhitespace_bytes_cons (c : Octet) (cs : Bytes) :
    endsInWhitespace (.bytes (c :: cs)) = some (surroundedBy isWhitespace (c :: cs)) := rfl

theorem rejectSurroundingWhitespaceField_ofBytes (named : h.name ≠ []) :
    rejectSurroundingWhitespaceField h.ofBytes = .ok () ↔
      surroundedBy isWhitespace h.name = false ∧ surroundedBy isWhitespace h.value = false := by
  obtain ⟨kind, name, value⟩ := h
  cases name with
  | nil => exact absurd rfl named
  | cons c cs =>
    cases ends : surroundedBy isWhitespace (c :: cs) <;>
      simp [rejectSurroundingWhitespaceField, endsInWhitespace_bytes_cons, ends, endsInWhitespace_bytes]

theorem pseudoHeadersValid_map_ofBytes :
    PseudoHeadersValid flags (block.map Header.ofBytes) ↔ PseudoDiscipline flags block := by
  have injective : Function.Injective PyStr.bytes := fun _ _ same => PyStr.bytes.inj same
  constructor
  · rintro ⟨distinct, allowed, first, notInTrailer, status⟩
    rw [pseudoNamesOf_map_ofBytes] at distinct allowed notInTrailer status
    refine ⟨(List.nodup_map_iff injective).mp distinct, fun n mem => ?_, ?_, fun trailer => ?_, fun response => ?_⟩
    · simpa [mem_allowedPseudoHeaderFields] using allowed _ (List.mem_map_of_mem _ mem)
    · simpa [PseudoHeadersFirst, List.pairwise_map] using first
    · simpa using notInTrailer trailer
    · simpa using status response
  · rintro ⟨distinct, allowed, first, notInTrailer, status⟩
    refine ⟨?_, ?_, by simpa [PseudoHeadersFirst, List.pairwise_map] using first, fun trailer => ?_,
      fun response => ?_⟩ <;> rw [pseudoNamesOf_map_ofBytes]
    · exact (List.nodup_map_iff injective).mpr distinct
    · simpa [mem_allowedPseudoHeaderFields] using allowed
    · simp [notInTrailer trailer]
    · simpa using status response

theorem hostAuthorityAgree_map_ofBytes :
    HostAuthorityAgree flags (block.map Header.ofBytes) ↔ AuthorityAgreement flags block := by
  simp only [HostAuthorityAgree, AuthorityAgreement, lastValueOf_map_ofBytes, Option.isSome_map]
  refine imp_congr_right fun _ => and_congr (by simp) ⟨fun agree a h ha hh => ?_, fun agree a h ha hh => ?_⟩
  · exact PyStr.bytes.inj (agree _ _ (by rw [ha]; rfl) (by rw [hh]; rfl))
  · obtain ⟨a', ha', rfl⟩ := Option.map_eq_some'.mp ha
    obtain ⟨h', hh', rfl⟩ := Option.map_eq_some'.mp hh
    rw [agree a' h' ha' hh']

theorem outboundChecksPass_map_ofBytes :
    OutboundChecksPass flags (block.map Header.ofBytes) ↔ OutboundWellFormed flags block := by
  constructor
  · rintro ⟨te, connection, pseudo, hostAuthority⟩
    exact ⟨fun h mem => rejectTeField_ofBytes.mp (te _ (List.mem_map_of_mem _ mem)),
      fun h mem => rejectConnectionHeaderField_ofBytes.mp (connection _ (List.mem_map_of_mem _ mem)),
      pseudoHeadersValid_map_ofBytes.mp pseudo, hostAuthorityAgree_map_ofBytes.mp hostAuthority⟩
  · rintro ⟨te, connection, pseudo, authority⟩
    exact ⟨List.forall_mem_map.mpr fun h mem => rejectTeField_ofBytes.mpr (te h mem),
      List.forall_mem_map.mpr fun h mem => rejectConnectionHeaderField_ofBytes.mpr (connection h mem),
      pseudoHeadersValid_map_ofBytes.mpr pseudo, hostAuthorityAgree_map_ofBytes.mpr authority⟩

theorem inboundChecksPass_map_ofBytes (named : ∀ h ∈ block, h.name ≠ []) :
    InboundChecksPass flags (block.map Header.ofBytes) ↔ InboundWellFormed flags block := by
  constructor
  · rintro ⟨outbound, uppercase, whitespace⟩
    exact ⟨outboundChecksPass_map_ofBytes.mp outbound,
      fun h mem => rejectUppercaseHeaderField_ofBytes.mp (uppercase _ (List.mem_map_of_mem _ mem)),
      fun h mem => (rejectSurroundingWhitespaceField_ofBytes (named h mem)).mp
        (whitespace _ (List.mem_map_of_mem _ mem))⟩
  · rintro ⟨outbound, lowercase, clean⟩
    exact ⟨outboundChecksPass_map_ofBytes.mpr outbound,
      List.forall_mem_map.mpr fun h mem => rejectUppercaseHeaderField_ofBytes.mpr (lowercase h mem),
      List.forall_mem_map.mpr fun h mem => (rejectSurroundingWhitespaceField_ofBytes (named h mem)).mpr (clean h mem)⟩

theorem isProtocolError_of_rejectUppercaseHeaderField_ofBytes {e : PyException}
    (raised : rejectUppercaseHeaderField h.ofBytes = .error e) : e.isProtocolError := by
  simp only [rejectUppercaseHeaderField, Header.ofBytes_name] at raised
  split at raised
  · cases raised
    rfl
  · cases raised

theorem isProtocolError_of_rejectSurroundingWhitespaceField_ofBytes (named : h.name ≠ []) {e : PyException}
    (raised : rejectSurroundingWhitespaceField h.ofBytes = .error e) : e.isProtocolError := by
  obtain ⟨kind, _ | ⟨c, cs⟩, value⟩ := h
  · exact absurd rfl named
  · simp only [rejectSurroundingWhitespaceField, Header.ofBytes_name, endsInWhitespace_bytes_cons] at raised
    cases ends : surroundedBy isWhitespace (c :: cs) <;> simp only [ends] at raised
    · split at raised
      · cases raised
        rfl
      · cases raised
    · cases raised
      rfl

end

theorem PyException.exists_of_isProtocolError {e : PyException} (protocol : e.isProtocolError) :
    ∃ p, e = .protocolError p := by
  cases e <;> simp_all [PyException.isProtocolError]

/-- A pipeline that can only return its block and only raise `ProtocolError`, and does not
return the block, raises `ProtocolError`. -/
theorem exists_protocolError_of_rejected {r : Except PyException (List (Header PyStr))} {xs : List (Header PyStr)}
    (onlyBlock : ∀ ys, r = .ok ys → ys = xs) (rejected : r ≠ .ok xs)
    (protocol : ∀ e, r = .error e → e.isProtocolError) : ∃ p, r = .error (.protocolError p) := by
  cases r with
  | ok ys => exact absurd (congrArg Except.ok (onlyBlock ys rfl)) rejected
  | error e => exact (PyException.exists_of_isProtocolError (protocol e rfl)).imp fun p same => by rw [same]

/-- Both validators accept exactly the well-formed octet blocks and raise `ProtocolError` on
the others; `validate_headers` only for blocks whose names are not empty. -/
theorem validate_headers_accepts_exactly (block : List (Header Bytes)) (flags : HeaderValidationFlags) :
    ((∀ h ∈ block, h.name ≠ []) →
      (validateHeaders (block.map Header.ofBytes) flags = .ok (block.map Header.ofBytes) ↔
        InboundWellFormed flags block) ∧
      (¬InboundWellFormed flags block →
        ∃ p, validateHeaders (block.map Header.ofBytes) flags = .error (.protocolError p))) ∧
    ((validateOutboundHeaders (block.map Header.ofBytes) flags).toList = .ok (block.map Header.ofBytes) ↔
      OutboundWellFormed flags block) ∧
    (¬OutboundWellFormed flags block →
      ∃ p, (validateOutboundHeaders (block.map Header.ofBytes) flags).toList = .error (.protocolError p)) := by
  have outbound : (validateOutboundHeaders (block.map Header.ofBytes) flags).toList = .ok (block.map Header.ofBytes) ↔
      OutboundWellFormed flags block := by
    rw [validateOutboundHeaders_toList_eq_ok, outboundChecksPass_map_ofBytes, and_iff_left rfl]
  refine ⟨fun named => ?_, outbound, fun malformed => exists_protocolError_of_rejected
    (fun _ ok => (validateOutboundHeaders_toList_eq_ok.mp ok).2) (mt outbound.mp malformed)
    fun e raised => validateOutboundHeaders_raised_isProtocolError _ flags e (Drained.toList_eq_error.mp raised)⟩
  have inbound : validateHeaders (block.map Header.ofBytes) flags = .ok (block.map Header.ofBytes) ↔
      InboundWellFormed flags block := by
    rw [validateHeaders_eq_ok, inboundChecksPass_map_ofBytes named, and_iff_left rfl]
  refine ⟨inbound, fun malformed => exists_protocolError_of_rejected (fun _ ok => (validateHeaders_eq_ok.mp ok).2)
    (mt inbound.mp malformed) (validateHeaders_error_isProtocolError flags ?_ ?_)⟩
  · exact List.forall_mem_map.mpr fun h _ _ => isProtocolError_of_rejectUppercaseHeaderField_ofBytes
  · exact List.forall_mem_map.mpr fun h mem _ => isProtocolError_of_rejectSurroundingWhitespaceField_ofBytes (named h mem)

/-! ### Exceptions raised before the first header is yielded -/

/-- When the first two stages raise before yielding anything, every later stage re-raises. -/
theorem validateHeaders_of_early_error {headers : List (Header PyStr)} {e : PyException} (flags : HeaderValidationFlags)
    (early : rejectSurroundingWhitespace (rejectUppercaseHeaderFields (.ofList headers)) = ⟨[], some e⟩) :
    validateHeaders headers flags = .error e := by
  simp only [validateHeaders, early, rejectTe, rejectConnectionHeader, rejectPseudoHeaderFields, checkAll,
    checkEach_failed, checkHostAuthorityHeader, validateHostAuthorityHeader]
  split <;> rfl

/-- An empty octet name passes the uppercase check, and `_reject_surrounding_whitespace` then
indexes it: `IndexError` escapes `validate_headers`, whatever the rest of the block and the
flags. -/
theorem empty_name_raises_index_error (kind : TupleKind) (value : PyStr) (rest : List (Header PyStr))
    (flags : HeaderValidationFlags) :
    validateHeaders (⟨kind, .bytes [], value⟩ :: rest) flags = .error .indexError :=
  validateHeaders_of_early_error flags rfl

/-! ### What a partly consumed block has yielded -/

theorem checkHostAuthorityHeader_yielded_prefix_of_source (headers : Drained (Header PyStr)) (flags : HeaderValidationFlags) :
    (checkHostAuthorityHeader headers flags).yielded <+: headers.yielded := by
  unfold checkHostAuthorityHeader
  split
  · exact List.prefix_refl _
  · exact checkEach_yielded_prefix_of_source _ _

/-- Consumed until it stops, `validate_outbound_headers` has yielded a prefix of the block, in
order, whether it ends or raises. -/
theorem validate_outbound_headers_yields_prefix_of_block (headers : List (Header PyStr)) (flags : HeaderValidationFlags) :
    (validateOutboundHeaders headers flags).yielded <+: headers :=
  (checkHostAuthorityHeader_yielded_prefix_of_source _ flags).trans <| (checkEach_yielded_prefix_of_source _ _).trans <|
    (checkEach_yielded_prefix_of_source _ _).trans (checkEach_yielded_prefix_of_source () (.ofList headers))

end H2.Utilities
