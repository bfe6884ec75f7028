import H2Proofs.Utilities.Normalization
import H2Proofs.Utilities.Pipeline

/-!
# Text and octets

Encoding every `str` of a block as UTF-8 changes neither pipeline's verdict, up to encoding,
where the checks cannot tell the forms apart: `validate_headers` on octet names and unpadded text
values, normalisation and `validate_outbound_headers` on text without separators
(`verdict_ignores_encoding`). A text name splits the inbound verdict.
-/

namespace H2.Utilities

/-! ### Encoding a block -/

/-- A header with each `str` encoded as UTF-8, its class kept. -/
def Header.encode (h : Header PyStr) : Header PyStr := h.map PyStr.encode

@[simp] theorem Header.encode_kind (h : Header PyStr) : h.encode.kind = h.kind := rfl
@[simp] theorem Header.encode_name (h : Header PyStr) : h.encode.name = h.name.encode := rfl
@[simp] theorem Header.encode_value (h : Header PyStr) : h.encode.value = h.value.encode := rfl

/-- The message formatted from the encoded values. -/
def HeaderProblem.encode : HeaderProblem → HeaderProblem
  | .uppercaseName name => .uppercaseName name.encode
  | .nameSurroundedByWhitespace name => .nameSurroundedByWhitespace name.encode
  | .valueSurroundedByWhitespace value => .valueSurroundedByWhitespace value.encode
  | .invalidTe value => .invalidTe value.encode
  | .connectionSpecific name => .connectionSpecific name.encode
  | .duplicatePseudoHeader name => .duplicatePseudoHeader name.encode
  | .pseudoHeaderOutOfSequence name => .pseudoHeaderOutOfSequence name.encode
  | .customPseudoHeader name => .customPseudoHeader name.encode
  | .pseudoHeaderInTrailer seen => .pseudoHeaderInTrailer (seen.map PyStr.encode)
  | .missingStatus => .missingStatus
  | .missingAuthorityAndHost => .missingAuthorityAndHost
  | .mismatchedAuthorityAndHost authority host => .mismatchedAuthorityAndHost authority.encode host.encode

/-- The exception raised on the encoded block. -/
def PyException.encode : PyException → PyException
  | .protocolError problem => .protocolError problem.encode
  | e => e

/-- Two strings of one form are equal exactly when their encodings are. -/
theorem PyStr.encode_inj {x y : PyStr} (sameForm : x.isBytes = y.isBytes) : x.encode = y.encode ↔ x = y := by
  rw [PyStr.eq_iff_codes x y]
  simp [PyStr.encode, sameForm]

theorem PyStr.encode_mem_map {x : PyStr} {ys : List PyStr} (sameForm : ∀ y ∈ ys, y.isBytes = x.isBytes) :
    x.encode ∈ ys.map PyStr.encode ↔ x ∈ ys := by
  simp only [List.mem_map]
  exact ⟨fun ⟨y, mem, same⟩ => (PyStr.encode_inj (sameForm y mem)).mp same ▸ mem, fun mem => ⟨x, mem, rfl⟩⟩

/-- Without a separator, `bytes.strip` strips the encoding as `str.strip` strips the text. -/
theorem PyStr.encode_strip {s : PyStr} (separators : s.hasSeparator = false) : s.encode.strip = s.strip.encode := by
  cases s with
  | bytes b => rfl
  | str t =>
    simp only [PyStr.hasSeparator, List.any_eq_false, Bool.not_eq_true] at separators
    simp only [PyStr.encode, PyStr.codes, PyStr.strip, PyStr.bytes.injEq]
    exact stripBy_congr fun c mem => (isTextSpace_eq_isWhitespace (separators c mem)).symm

theorem PyStr.hasSeparator_lower (s : PyStr) : s.lower.hasSeparator = s.hasSeparator := by
  cases s <;> simp [PyStr.lower, PyStr.hasSeparator, Function.comp_def]

/-! ### Normalisation -/

theorem lowercaseHeaderName_encode (x : Header PyStr) :
    lowercaseHeaderName x.encode = (lowercaseHeaderName x).encode := by
  simp [lowercaseHeaderName, Header.encode, Header.map, PyStr.encode_lower]

theorem stripHeader_encode {x : Header PyStr} (name : x.name.hasSeparator = false)
    (value : x.value.hasSeparator = false) : stripHeader x.encode = (stripHeader x).encode := by
  simp [stripHeader, Header.encode, Header.map, PyStr.encode_strip name, PyStr.encode_strip value]

theorem notConnectionHeader_encode (x : Header PyStr) : notConnectionHeader x.encode = notConnectionHeader x := by
  simp [notConnectionHeader, mem_connectionHeaders]

theorem secureHeader_encode (x : Header PyStr) : secureHeader x.encode = (secureHeader x).encode := by
  simp only [secureHeader_eq, mem_secureHeaderSet, mem_bothForms, Header.encode_name, Header.encode_value,
    PyStr.codes_encode, PyStr.length]
  split_ifs <;> rfl

/-- Normalisation commutes with encoding when no text holds a separator. -/
theorem normalizeOutboundHeaders_map_encode {headers : List (Header PyStr)}
    (separators : ∀ x ∈ headers, x.name.hasSeparator = false ∧ x.value.hasSeparator = false) :
    normalizeOutboundHeaders (headers.map Header.encode) = (normalizeOutboundHeaders headers).map Header.encode := by
  induction headers with
  | nil => rfl
  | cons x xs ih =>
    obtain ⟨name, value⟩ := separators x (List.mem_cons_self x xs)
    have rest := ih fun y mem => separators y (List.mem_cons_of_mem x mem)
    have lowered : (lowercaseHeaderName x).name.hasSeparator = false := by
      simpa [lowercaseHeaderName, PyStr.hasSeparator_lower] using name
    rw [List.map_cons, normalizeOutboundHeaders_cons, normalizeOutboundHeaders_cons, lowercaseHeaderName_encode,
      stripHeader_encode lowered value, notConnectionHeader_encode, secureHeader_encode, rest]
    split_ifs <;> rfl

/-! ### The outbound checks -/

theorem rejectTeField_encode (x : Header PyStr) :
    rejectTeField x.encode = (rejectTeField x).mapError PyException.encode := by
  simp only [rejectTeField, mem_bothForms, Header.encode_name, Header.encode_value, PyStr.codes_encode,
    PyStr.codes_lower]
  split_ifs <;> rfl

theorem rejectConnectionHeaderField_encode (x : Header PyStr) :
    rejectConnectionHeaderField x.encode = (rejectConnectionHeaderField x).mapError PyException.encode := by
  simp only [rejectConnectionHeaderField, mem_connectionHeaders, Header.encode_name, PyStr.codes_encode]
  split_ifs <;> rfl

theorem isPseudoHeaderName_encode (name : PyStr) : isPseudoHeaderName name.encode = isPseudoHeaderName name := by
  cases name <;> rfl

/-- The loop state of `_reject_pseudo_header_fields` on the encoded block. -/
def PseudoHeaderScan.encode (state : PseudoHeaderScan) : PseudoHeaderScan :=
  ⟨state.seenPseudoHeaderFields.map PyStr.encode, state.seenRegularHeader⟩

/-- The seen set tells the forms apart, so the pseudo-header check commutes with encoding only
when a pseudo-header name has the form of those seen. -/
theorem rejectPseudoHeaderField_encode {state : PseudoHeaderScan} {x : Header PyStr}
    (sameForm : isPseudoHeaderName x.name = true → ∀ n ∈ state.seenPseudoHeaderFields, n.isBytes = x.name.isBytes) :
    rejectPseudoHeaderField state.encode x.encode =
      ((rejectPseudoHeaderField state x).map PseudoHeaderScan.encode).mapError PyException.encode := by
  by_cases pseudo : isPseudoHeaderName x.name = true
  · simp only [rejectPseudoHeaderField, PseudoHeaderScan.encode, Header.encode_name, isPseudoHeaderName_encode,
      pseudo, PyStr.encode_mem_map (sameForm pseudo), mem_allowedPseudoHeaderFields, PyStr.codes_encode]
    split_ifs <;> rfl
  · simp only [rejectPseudoHeaderField, Header.encode_name, isPseudoHeaderName_encode, pseudo]
    rfl

theorem rejectPseudoHeaderFieldsAfter_encode (flags : HeaderValidationFlags) (state : PseudoHeaderScan) :
    rejectPseudoHeaderFieldsAfter flags state.encode = (rejectPseudoHeaderFieldsAfter flags state).map PyException.encode := by
  simp only [rejectPseudoHeaderFieldsAfter, mem_status_forms]
  simp only [PseudoHeaderScan.encode, ne_eq, List.map_eq_nil_iff, List.mem_map, exists_exists_and_eq_and,
    PyStr.codes_encode]
  split_ifs <;> rfl

/-- The loop state of `_validate_host_authority_header` on the encoded block. -/
def HostAuthorityScan.encode (state : HostAuthorityScan) : HostAuthorityScan :=
  ⟨state.authorityHeaderVal.map PyStr.encode, state.hostHeaderVal.map PyStr.encode⟩

theorem recordHostAuthority_encode (state : HostAuthorityScan) (x : Header PyStr) :
    recordHostAuthority state.encode x.encode =
      ((recordHostAuthority state x).map HostAuthorityScan.encode).mapError PyException.encode := by
  simp only [recordHostAuthority, mem_bothForms, Header.encode_name, PyStr.codes_encode]
  split_ifs <;> rfl

/-- `!=` tells the forms apart, so the final comparison commutes with encoding only on
values of one form. -/
theorem validateHostAuthorityAfter_encode {state : HostAuthorityScan} (form : Bool)
    (sameForm : ∀ v, (state.authorityHeaderVal = some v ∨ state.hostHeaderVal = some v) → v.isBytes = form) :
    validateHostAuthorityAfter state.encode = (validateHostAuthorityAfter state).map PyException.encode := by
  rcases state with ⟨_ | a, _ | h⟩
  · rfl
  · rfl
  · rfl
  · have agree : a.encode ≠ h.encode ↔ a ≠ h :=
      not_congr (PyStr.encode_inj ((sameForm a (.inl rfl)).trans (sameForm h (.inr rfl)).symm))
    simp only [validateHostAuthorityAfter, HostAuthorityScan.encode, Option.map_some', agree]
    split_ifs <;> rfl

/-! ### The inbound checks on octet names -/

/-- An octet string encodes to itself, and a text whose code points are not surrounded by
whitespace passes the whitespace test as its encoding does. -/
theorem endsInWhitespace_encode {s : PyStr} (unpadded : s.isBytes = false → surroundedBy isWhitespace s.codes = false) :
    endsInWhitespace s.encode = endsInWhitespace s := by
  cases s with
  | bytes b => rfl
  | str t =>
    have clean := unpadded rfl
    rcases t with ⟨_ | ⟨c, cs⟩, isAscii⟩
    · rfl
    · simp only [PyStr.codes] at clean
      simp [PyStr.encode, PyStr.codes, endsInWhitespace, clean]

theorem rejectUppercaseHeaderField_encode {x : Header PyStr} (named : x.name.isBytes = true) :
    rejectUppercaseHeaderField x.encode = (rejectUppercaseHeaderField x).mapError PyException.encode := by
  rcases x with ⟨kind, _ | _, value⟩
  · simp only [rejectUppercaseHeaderField, Header.encode_name, PyStr.encode_bytes]
    split_ifs <;> rfl
  · cases named

theorem rejectSurroundingWhitespaceField_encode {x : Header PyStr} (named : x.name.isBytes = true)
    (unpadded : x.value.isBytes = false → surroundedBy isWhitespace x.value.codes = false) :
    rejectSurroundingWhitespaceField x.encode = (rejectSurroundingWhitespaceField x).mapError PyException.encode := by
  rcases x with ⟨kind, _ | _, value⟩
  · simp only [rejectSurroundingWhitespaceField, Header.encode_name, Header.encode_value, PyStr.encode_bytes,
      endsInWhitespace_encode unpadded]
    split
    · rfl
    · rfl
    · split_ifs <;> rfl
  · cases named

/-! ### One header through the checks -/

/-- Where the checks tell `b'x'` from `u'x'`: a pseudo-header name is kept in the seen set, an
`:authority` or `Host` value is compared with `!=`. -/
def Header.FormsAt (nameForm valueForm : Bool) (x : Header PyStr) : Prop :=
  (isPseudoHeaderName x.name = true → x.name.isBytes = nameForm) ∧
    (x.name ∈ bothForms ":authority" rfl ∨ x.name ∈ bothForms "host" rfl → x.value.isBytes = valueForm)

instance decidableFormsAt (nameForm valueForm : Bool) : DecidablePred (Header.FormsAt nameForm valueForm) :=
  fun _ => inferInstanceAs (Decidable (_ ∧ _))

/-- The pseudo-header names seen so far all have the form `form`. -/
def PseudoHeaderScan.SeenInForm (form : Bool) (state : PseudoHeaderScan) : Prop :=
  ∀ n ∈ state.seenPseudoHeaderFields, n.isBytes = form

/-- The values recorded so far all have the form `form`. -/
def HostAuthorityScan.RecordedInForm (form : Bool) (state : HostAuthorityScan) : Prop :=
  ∀ v, (state.authorityHeaderVal = some v ∨ state.hostHeaderVal = some v) → v.isBytes = form

/-- The loop state of both pipelines on the encoded block. -/
def encodeScans (state : PseudoHeaderScan × HostAuthorityScan) : PseudoHeaderScan × HostAuthorityScan :=
  (state.1.encode, state.2.encode)

/-- The invariant of the encoded run: what the scans hold has the forms the block's headers have. -/
def ScansInForms (nameForm valueForm : Bool) (state : PseudoHeaderScan × HostAuthorityScan) : Prop :=
  state.1.SeenInForm nameForm ∧ state.2.RecordedInForm valueForm

section Step

variable {nameForm valueForm : Bool} {state state' : PseudoHeaderScan × HostAuthorityScan} {x : Header PyStr}

theorem PseudoHeaderScan.SeenInForm.step {s s' : PseudoHeaderScan} (seen : s.SeenInForm nameForm)
    (named : isPseudoHeaderName x.name = true → x.name.isBytes = nameForm) (ok : rejectPseudoHeaderField s x = .ok s') :
    s'.SeenInForm nameForm := by
  rw [rejectPseudoHeaderField_eq_ok] at ok
  split_ifs at ok with pseudo
  · obtain ⟨-, -, -, rfl⟩ := ok
    simpa [PseudoHeaderScan.SeenInForm, named pseudo] using seen
  · exact ok ▸ seen

theorem HostAuthorityScan.RecordedInForm.step {s s' : HostAuthorityScan} (recorded : s.RecordedInForm valueForm)
    (valued : x.name ∈ bothForms ":authority" rfl ∨ x.name ∈ bothForms "host" rfl → x.value.isBytes = valueForm)
    (ok : recordHostAuthority s x = .ok s') : s'.RecordedInForm valueForm := by
  intro v mem
  simp only [recordHostAuthority, Except.ok.injEq] at ok
  subst ok
  split_ifs at mem with authority host
  · rcases mem with mem | mem
    · cases Option.some.inj mem; exact valued (.inl authority)
    · exact recorded v (.inr mem)
  · rcases mem with mem | mem
    · exact recorded v (.inl mem)
    · cases Option.some.inj mem; exact valued (.inr host)
  · exact recorded v mem

theorem ScansInForms.step (scans : ScansInForms nameForm valueForm state) (forms : x.FormsAt nameForm valueForm)
    (passed : checkOutboundHeader state x = .ok state') : ScansInForms nameForm valueForm state' := by
  obtain ⟨pseudo, recorded⟩ := pairChecks_eq_ok (precheck_eq_ok (precheck_eq_ok passed))
  exact ⟨scans.1.step forms.1 pseudo, scans.2.step forms.2 recorded⟩

theorem checkOutboundHeader_encode (scans : ScansInForms nameForm valueForm state)
    (forms : x.FormsAt nameForm valueForm) :
    checkOutboundHeader (encodeScans state) x.encode =
      ((checkOutboundHeader state x).map encodeScans).mapError PyException.encode := by
  have pseudo := @rejectPseudoHeaderField_encode state.1 x fun pseudo n mem => (scans.1 n mem).trans (forms.1 pseudo).symm
  simp only [checkOutboundHeader, precheck, pairChecks, encodeScans, rejectTeField_encode,
    rejectConnectionHeaderField_encode, pseudo, recordHostAuthority_encode]
  cases rejectTeField x <;> cases rejectConnectionHeaderField x <;> cases rejectPseudoHeaderField state.1 x <;> rfl

/-- On an octet name and a value not padded as octets, the two inbound checks see what they
would see on the encoded header. -/
theorem checkInboundHeader_encode (scans : ScansInForms true valueForm state) (named : x.name.isBytes = true)
    (forms : x.FormsAt true valueForm) (unpadded : x.value.isBytes = false → surroundedBy isWhitespace x.value.codes = false) :
    checkInboundHeader (encodeScans state) x.encode =
      ((checkInboundHeader state x).map encodeScans).mapError PyException.encode := by
  simp only [checkInboundHeader, precheck, rejectUppercaseHeaderField_encode named,
    rejectSurroundingWhitespaceField_encode named unpadded, checkOutboundHeader_encode scans forms]
  cases rejectUppercaseHeaderField x <;> cases rejectSurroundingWhitespaceField x <;> rfl

theorem finishHeaderBlock_encode (flags : HeaderValidationFlags) (scans : ScansInForms nameForm valueForm state) :
    finishHeaderBlock flags (encodeScans state) = (finishHeaderBlock flags state).map PyException.encode := by
  simp only [finishHeaderBlock, encodeScans, checkHostAuthorityAfter, rejectPseudoHeaderFieldsAfter_encode,
    validateHostAuthorityAfter_encode valueForm scans.2]
  cases rejectPseudoHeaderFieldsAfter flags state.1 <;> split_ifs <;> rfl

theorem scansInForms_init (nameForm valueForm : Bool) : ScansInForms nameForm valueForm (⟨[], false⟩, ⟨none, none⟩) :=
  ⟨nofun, fun _ => by simp⟩

end Step

/-! ### The two pipelines -/

/-- The outbound path commutes with encoding on blocks whose pseudo-header names share one form
and whose `:authority` and `Host` values share one form. -/
theorem validateOutboundHeaders_map_encode {headers : List (Header PyStr)} (flags : HeaderValidationFlags)
    (nameForm valueForm : Bool) (forms : ∀ x ∈ headers, x.FormsAt nameForm valueForm) :
    validateOutboundHeaders (headers.map Header.encode) flags =
      (validateOutboundHeaders headers flags).map Header.encode PyException.encode := by
  simp only [validateOutboundHeaders, checkSentHostAuthorityHeader, outboundChecks_eq_checkEach]
  exact @checkEach_map _ _ _ _ _ _ _ _ Header.encode PyException.encode encodeScans (ScansInForms nameForm valueForm)
    (Header.FormsAt nameForm valueForm) (fun _ _ scans forms => checkOutboundHeader_encode scans forms)
    (fun _ _ _ scans forms passed => scans.step forms passed) (fun _ scans => finishHeaderBlock_encode flags scans)
    (.ofList headers) forms _ (scansInForms_init nameForm valueForm)

/-- `validate_headers` commutes with encoding on blocks with octet names whose `:authority` and
`Host` values share one form and whose text values are not padded with whitespace. -/
theorem validateHeaders_map_encode {headers : List (Header PyStr)} (flags : HeaderValidationFlags) (valueForm : Bool)
    (inbound : ∀ x ∈ headers, x.name.isBytes = true ∧ x.FormsAt true valueForm ∧
      (x.value.isBytes = false → surroundedBy isWhitespace x.value.codes = false)) :
    validateHeaders (headers.map Header.encode) flags =
      ((validateHeaders headers flags).map (List.map Header.encode)).mapError PyException.encode := by
  rw [validateHeaders_eq_checkLoop, validateHeaders_eq_checkLoop, ← Drained.toList_map]
  exact congrArg Drained.toList <| @checkLoop_map _ _ _ _ _ _ _ _ Header.encode PyException.encode encodeScans
    (ScansInForms true valueForm)
    (fun x => x.name.isBytes = true ∧ x.FormsAt true valueForm ∧
      (x.value.isBytes = false → surroundedBy isWhitespace x.value.codes = false))
    (fun _ _ scans ⟨named, forms, unpadded⟩ => checkInboundHeader_encode scans named forms unpadded)
    (fun _ _ _ scans ⟨_, forms, _⟩ passed => scans.step forms (precheck_eq_ok (precheck_eq_ok passed)))
    (fun _ scans => finishHeaderBlock_encode flags scans) headers inbound _ (scansInForms_init true valueForm) none

/-- Mixed forms: `u'x'` and `b'x'` differ under `!=`, their encodings do not. -/
example :
    (validateOutboundHeaders [⟨.tuple, PyStr.b ":authority", PyStr.u "x" rfl⟩, ⟨.tuple, PyStr.b "host", PyStr.b "x"⟩]
        ⟨true, false, false, false⟩).raised =
      some (.protocolError (.mismatchedAuthorityAndHost (PyStr.u "x" rfl) (PyStr.b "x"))) ∧
    (validateOutboundHeaders ([⟨.tuple, PyStr.b ":authority", PyStr.u "x" rfl⟩, ⟨.tuple, PyStr.b "host", PyStr.b "x"⟩].map
        Header.encode) ⟨true, false, false, false⟩).raised = none := by
  decide

/-- A separator: `str.strip` turns `u'\x1cconnection'` into a connection-specific name and the
header is dropped; `bytes.strip` keeps the encoded one. -/
example :
    normalizeOutboundHeaders [⟨.tuple, .str ⟨28 :: ascii "connection", rfl⟩, PyStr.b "x"⟩] = [] ∧
    normalizeOutboundHeaders ([⟨.tuple, .str ⟨28 :: ascii "connection", rfl⟩, PyStr.b "x"⟩].map Header.encode) =
      [⟨.tuple, .bytes (28 :: ascii "connection"), PyStr.b "x"⟩] := by
  decide

end H2.Utilities
