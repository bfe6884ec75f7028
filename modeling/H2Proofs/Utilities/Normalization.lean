import H2Proofs.Utilities.Acceptance

/-!
# Outbound normalisation

`normalize_outbound_headers` chains four generators that cannot raise, so each is the list it
yields: lowercase the names, strip names and values, drop connection-specific headers, and
mark credentials never-indexed. On octet blocks it is `normalizedBySpec`, the spec's §4.1.4
read literally, and it is idempotent. The block it produces passes checks 1 and 2 of
`validate_headers` by construction, except that a name made only of whitespace becomes empty.
-/

namespace H2.Utilities

/-! ### The four generators -/

/-- The body of `_lowercase_header_names`: `header.__class__` for a `HeaderTuple`, a plain
tuple otherwise, so the class is kept. -/
def lowercaseHeaderName (header : Header PyStr) : Header PyStr := { header with name := header.name.lower }

/-- The body of `_strip_surrounding_whitespace`. -/
def stripHeader (header : Header PyStr) : Header PyStr :=
  { header with name := header.name.strip, value := header.value.strip }

/-- The test of `_strip_connection_headers`. -/
def notConnectionHeader (header : Header PyStr) : Bool := header.name ∉ connectionHeaders

/-- The body of `_secure_headers`: `NeverIndexedHeaderTuple(*header)` for credentials and
cookies shorter than 20. -/
def secureHeader (header : Header PyStr) : Header PyStr :=
  if header.name ∈ secureHeaderSet then { header with kind := .neverIndexedHeaderTuple }
  else if header.name ∈ bothForms "cookie" rfl ∧ header.value.length < 20 then
    { header with kind := .neverIndexedHeaderTuple }
  else header

/-- `_lowercase_header_names`. -/
def lowercaseHeaderNames (headers : List (Header PyStr)) : List (Header PyStr) := headers.map lowercaseHeaderName

/-- `_strip_surrounding_whitespace`. -/
def stripSurroundingWhitespace (headers : List (Header PyStr)) : List (Header PyStr) := headers.map stripHeader

/-- `_strip_connection_headers`. -/
def stripConnectionHeaders (headers : List (Header PyStr)) : List (Header PyStr) :=
  headers.filter notConnectionHeader

/-- `_secure_headers`. -/
def secureHeaders (headers : List (Header PyStr)) : List (Header PyStr) := headers.map secureHeader

/-- `normalize_outbound_headers`; none of its generators reads `hdr_validation_flags`. -/
def normalizeOutboundHeaders (headers : List (Header PyStr)) : List (Header PyStr) :=
  secureHeaders (stripConnectionHeaders (stripSurroundingWhitespace (lowercaseHeaderNames headers)))

theorem normalizeOutboundHeaders_cons (x : Header PyStr) (xs : List (Header PyStr)) :
    normalizeOutboundHeaders (x :: xs) =
      if notConnectionHeader (stripHeader (lowercaseHeaderName x)) then
        secureHeader (stripHeader (lowercaseHeaderName x)) :: normalizeOutboundHeaders xs
      else normalizeOutboundHeaders xs := by
  simp only [normalizeOutboundHeaders, secureHeaders, stripConnectionHeaders, stripSurroundingWhitespace,
    lowercaseHeaderNames, List.map_cons, List.filter_cons]
  split <;> rfl

/-- `_secure_headers` marks a tuple or passes it on. -/
theorem secureHeader_eq (h : Header PyStr) :
    secureHeader h = if h.name ∈ secureHeaderSet ∨ (h.name ∈ bothForms "cookie" rfl ∧ h.value.length < 20)
      then { h with kind := .neverIndexedHeaderTuple } else h := by
  unfold secureHeader
  by_cases secure : h.name ∈ secureHeaderSet <;> simp [secure]

@[simp] theorem secureHeader_name (h : Header PyStr) : (secureHeader h).name = h.name := by
  rw [secureHeader_eq]; split_ifs <;> rfl

@[simp] theorem secureHeader_value (h : Header PyStr) : (secureHeader h).value = h.value := by
  rw [secureHeader_eq]; split_ifs <;> rfl

theorem mem_normalizeOutboundHeaders {y : Header PyStr} {headers : List (Header PyStr)}
    (mem : y ∈ normalizeOutboundHeaders headers) :
    ∃ x ∈ headers, y = secureHeader (stripHeader (lowercaseHeaderName x)) ∧
      y.name = x.name.lower.strip ∧ y.value = x.value.strip := by
  simp only [normalizeOutboundHeaders, secureHeaders, stripConnectionHeaders, stripSurroundingWhitespace,
    lowercaseHeaderNames, List.mem_map, List.mem_filter] at mem
  obtain ⟨_, ⟨⟨_, ⟨x, mem, rfl⟩, rfl⟩, -⟩, rfl⟩ := mem
  exact ⟨x, mem, rfl, by simp [stripHeader, lowercaseHeaderName], by simp [stripHeader, lowercaseHeaderName]⟩

/-! ### On octet blocks -/

/-- A name lowercased, then stripped. -/
def normalName (name : Bytes) : Bytes := stripBy isWhitespace (name.map lowerOctet)

/-- Outbound normalisation as §4.1.4 of the spec states it, on an octet block. -/
def normalizedBySpec (block : List (Header Bytes)) : List (Header Bytes) :=
  block.filterMap fun h =>
    let name := normalName h.name
    let value := stripBy isWhitespace h.value
    if name ∈ connectionNames then none
    else some ⟨if h.kind = .neverIndexedHeaderTuple ∨ name ∈ secureNames ∨
        (name = ascii "cookie" ∧ value.length < 20) then .neverIndexedHeaderTuple else h.kind, name, value⟩

theorem secureHeader_ofBytes (h : Header Bytes) :
    secureHeader h.ofBytes = Header.ofBytes ⟨if h.kind = .neverIndexedHeaderTuple ∨ h.name ∈ secureNames ∨
      (h.name = ascii "cookie" ∧ h.value.length < 20) then .neverIndexedHeaderTuple else h.kind, h.name, h.value⟩ := by
  have plain : h.ofBytes = Header.ofBytes ⟨h.kind, h.name, h.value⟩ := rfl
  by_cases secure : h.name ∈ secureNames
  · simp [secureHeader, mem_secureHeaderSet, secure, Header.ofBytes, Header.map]
  by_cases cookie : h.name = ascii "cookie" ∧ h.value.length < 20
  · simp [secureHeader, mem_secureHeaderSet, secure, cookie, mem_bothForms, Header.ofBytes, Header.map]
  · simp only [secureHeader, mem_secureHeaderSet, secure, cookie, mem_bothForms, Header.ofBytes_name,
      Header.ofBytes_value, PyStr.codes_bytes, PyStr.length_bytes, or_false, ite_false, ite_eq_right_iff]
    split_ifs with never
    · rw [plain, never]
    · exact plain

theorem stripHeader_lowercaseHeaderName_ofBytes (h : Header Bytes) :
    stripHeader (lowercaseHeaderName h.ofBytes) =
      Header.ofBytes ⟨h.kind, normalName h.name, stripBy isWhitespace h.value⟩ := rfl

theorem notConnectionHeader_ofBytes (h : Header Bytes) :
    notConnectionHeader h.ofBytes = decide (h.name ∉ connectionNames) := by
  simp [notConnectionHeader, mem_connectionHeaders]

theorem normalizeOutboundHeaders_map_ofBytes (block : List (Header Bytes)) :
    normalizeOutboundHeaders (block.map Header.ofBytes) = (normalizedBySpec block).map Header.ofBytes := by
  induction block with
  | nil => rfl
  | cons h block ih =>
    simp only [normalizedBySpec] at ih ⊢
    rw [List.map_cons, normalizeOutboundHeaders_cons, stripHeader_lowercaseHeaderName_ofBytes,
      notConnectionHeader_ofBytes, List.filterMap_cons, ih]
    by_cases conn : normalName h.name ∈ connectionNames
    · simp [conn]
    · simp [conn, secureHeader_ofBytes]

/-- Normalisation on octets: each header lowercased and stripped, connection-specific headers
dropped, order kept, and a tuple never-indexed exactly when it was one, names a credential,
or is a cookie shorter than 20 octets. -/
theorem normalize_outbound_headers_spec (block : List (Header Bytes)) :
    normalizeOutboundHeaders (block.map Header.ofBytes) =
      ((block.filter fun h => normalName h.name ∉ connectionNames).map fun h =>
        Header.ofBytes ⟨if h.kind = .neverIndexedHeaderTuple ∨ normalName h.name ∈ secureNames ∨
            (normalName h.name = ascii "cookie" ∧ (stripBy isWhitespace h.value).length < 20)
          then .neverIndexedHeaderTuple else h.kind, normalName h.name, stripBy isWhitespace h.value⟩) := by
  rw [normalizeOutboundHeaders_map_ofBytes]
  induction block with
  | nil => rfl
  | cons h block ih =>
    by_cases conn : normalName h.name ∈ connectionNames
    · simpa [normalizedBySpec, List.filter_cons, conn] using ih
    · simpa [normalizedBySpec, List.filter_cons, conn] using ih

/-! ### Idempotence -/

theorem lower_strip_lower_strip (s : PyStr) : s.lower.strip.lower.strip = s.lower.strip := by
  cases s with
  | bytes b =>
    simp [← stripBy_map isWhitespace_lowerOctet, Function.comp_def]
  | str t =>
    simp only [PyStr.lower, PyStr.strip, PyStr.str.injEq, Text.mk.injEq]
    rw [← stripBy_map isTextSpace_lowerOctet, List.map_map, stripBy_stripBy]
    simp [Function.comp_def]

theorem strip_strip (s : PyStr) : s.strip.strip = s.strip := by
  cases s <;> simp [PyStr.strip]

theorem secureHeader_secureHeader (h : Header PyStr) : secureHeader (secureHeader h) = secureHeader h := by
  rw [secureHeader_eq h]
  split_ifs with marked
  · rw [secureHeader_eq, if_pos marked]
  · rw [secureHeader_eq, if_neg marked]

theorem stripHeader_lowercaseHeaderName_kind (h : Header PyStr) (kind : TupleKind) :
    stripHeader (lowercaseHeaderName { h with kind := kind }) = { stripHeader (lowercaseHeaderName h) with kind := kind } :=
  rfl

/-- A header once normalised is its own normal form under lowercasing and stripping. -/
theorem stripHeader_lowercaseHeaderName_secureHeader (x : Header PyStr) :
    stripHeader (lowercaseHeaderName (secureHeader (stripHeader (lowercaseHeaderName x)))) =
      secureHeader (stripHeader (lowercaseHeaderName x)) := by
  have normal : stripHeader (lowercaseHeaderName (stripHeader (lowercaseHeaderName x))) =
      stripHeader (lowercaseHeaderName x) := by
    simp [stripHeader, lowercaseHeaderName, lower_strip_lower_strip, strip_strip]
  rw [secureHeader_eq]
  split_ifs
  · rw [stripHeader_lowercaseHeaderName_kind, normal]
  · exact normal

/-- Normalising a normalised block changes nothing: names, values, order and marks. -/
theorem normalize_outbound_headers_idempotent (headers : List (Header PyStr)) :
    normalizeOutboundHeaders (normalizeOutboundHeaders headers) = normalizeOutboundHeaders headers := by
  induction headers with
  | nil => rfl
  | cons x xs ih =>
    rw [normalizeOutboundHeaders_cons]
    split_ifs with kept
    · have again : notConnectionHeader (stripHeader (lowercaseHeaderName
          (secureHeader (stripHeader (lowercaseHeaderName x))))) := by
        rw [stripHeader_lowercaseHeaderName_secureHeader]; simpa [notConnectionHeader] using kept
      rw [normalizeOutboundHeaders_cons, if_pos again, stripHeader_lowercaseHeaderName_secureHeader,
        secureHeader_secureHeader, ih]
    · exact ih

/-! ### Outbound and inbound validation of a normalised block -/

theorem mem_normalizedBySpec {x : Header Bytes} {block : List (Header Bytes)} (mem : x ∈ normalizedBySpec block) :
    ∃ h ∈ block, x.name = normalName h.name ∧ x.value = stripBy isWhitespace h.value := by
  obtain ⟨h, inBlock, kept⟩ := List.mem_filterMap.mp mem
  dsimp only at kept
  split at kept
  · cases kept
  · cases kept
    exact ⟨h, inBlock, rfl, rfl⟩

theorem normalName_ne_nil {name : Bytes} (visible : ∃ c ∈ name, isWhitespace c = false) : normalName name ≠ [] := by
  obtain ⟨c, mem, visible⟩ := visible
  rw [normalName, Ne, stripBy_eq_nil_iff]
  exact fun blank => by simpa [visible] using blank _ (List.mem_map_of_mem lowerOctet mem)

theorem isUpper_of_mem_normalName {name : Bytes} {c : Octet} (mem : c ∈ normalName name) : isUpper c = false := by
  obtain ⟨d, -, rfl⟩ := List.mem_map.mp (mem_of_mem_stripBy mem)
  exact isUpper_lowerOctet d

/-- A normalised octet block passes the two checks only `validate_headers` makes, once no
name is empty. -/
theorem firstChecks_normalizedBySpec {block : List (Header Bytes)}
    (visible : ∀ h ∈ block, ∃ c ∈ h.name, isWhitespace c = false) :
    ∀ x ∈ (normalizedBySpec block).map Header.ofBytes,
      rejectUppercaseHeaderField x = .ok () ∧ rejectSurroundingWhitespaceField x = .ok () := by
  intro y inMap
  obtain ⟨x, mem, rfl⟩ := List.mem_map.mp inMap
  obtain ⟨h, inBlock, name, value⟩ := mem_normalizedBySpec mem
  have named : x.name ≠ [] := name ▸ normalName_ne_nil (visible h inBlock)
  refine ⟨rejectUppercaseHeaderField_ofBytes.mpr fun c inName => isUpper_of_mem_normalName (name ▸ inName),
    (rejectSurroundingWhitespaceField_ofBytes named).mpr ⟨?_, ?_⟩⟩
  · rw [name, normalName, surroundedBy_stripBy]
  · rw [value, surroundedBy_stripBy]

/-- Once every name has an octet that is not whitespace, outbound validation of the
normalised block completes exactly when inbound validation returns it. -/
theorem normalized_outbound_agrees_with_inbound (block : List (Header Bytes)) (flags : HeaderValidationFlags)
    (visible : ∀ h ∈ block, ∃ c ∈ h.name, isWhitespace c = false) :
    (validateOutboundHeaders (normalizeOutboundHeaders (block.map Header.ofBytes)) flags).raised = none ↔
      validateHeaders (normalizeOutboundHeaders (block.map Header.ofBytes)) flags =
        .ok (normalizeOutboundHeaders (block.map Header.ofBytes)) := by
  have clean := firstChecks_normalizedBySpec visible
  rw [normalizeOutboundHeaders_map_ofBytes, validateHeaders_eq_ok]
  constructor
  · intro ended
    exact ⟨⟨outboundChecksPass_of_raised_eq_none ended, fun x mem => (clean x mem).1, fun x mem => (clean x mem).2⟩, rfl⟩
  · rintro ⟨pass, -⟩
    rw [validateOutboundHeaders_of_pass pass.toOutboundChecksPass]
    rfl

theorem normalized_outbound_agrees_with_inbound_at_host :
    (∀ h ∈ [(⟨.tuple, ascii "host", ascii "x"⟩ : Header Bytes)], ∃ c ∈ h.name, isWhitespace c = false) ∧
    ((validateOutboundHeaders (normalizeOutboundHeaders ([⟨.tuple, ascii "host", ascii "x"⟩].map Header.ofBytes))
        ⟨true, false, false, false⟩).raised = none ↔
      validateHeaders (normalizeOutboundHeaders ([⟨.tuple, ascii "host", ascii "x"⟩].map Header.ofBytes))
          ⟨true, false, false, false⟩ =
        .ok (normalizeOutboundHeaders ([⟨.tuple, ascii "host", ascii "x"⟩].map Header.ofBytes))) :=
  ⟨by decide, normalized_outbound_agrees_with_inbound [⟨.tuple, ascii "host", ascii "x"⟩] _ (by decide)⟩

/-- A name of whitespace alone normalises to the empty name: outbound validation of a trailer
block completes, while `validate_headers` raises `IndexError` on it. -/
theorem whitespace_name_splits_validators :
    (validateOutboundHeaders (normalizeOutboundHeaders ([⟨.tuple, ascii " ", []⟩].map Header.ofBytes))
        ⟨false, true, false, false⟩).raised = none ∧
      validateHeaders (normalizeOutboundHeaders ([⟨.tuple, ascii " ", []⟩].map Header.ofBytes))
        ⟨false, true, false, false⟩ = .error .indexError := by
  decide

/-! ### What every normalised block satisfies -/

/-- Every name normalisation yields is lowercase, and no name or value begins or ends with
whitespace, whatever the form of the strings. -/
theorem normalized_headers_lowercase_and_stripped (headers : List (Header PyStr)) :
    ∀ y ∈ normalizeOutboundHeaders headers, (∀ c ∈ y.name.codes, isUpper c = false) ∧
      surroundedBy isWhitespace y.name.codes = false ∧ surroundedBy isWhitespace y.value.codes = false := by
  intro y mem
  obtain ⟨x, -, -, name, value⟩ := mem_normalizeOutboundHeaders mem
  rw [name, value]
  exact ⟨fun c => PyStr.isUpper_of_mem_codes_lower_strip, PyStr.surroundedBy_codes_strip _,
    PyStr.surroundedBy_codes_strip _⟩

theorem normalized_headers_lowercase_and_stripped_at_host :
    ⟨.tuple, .b "host", .b "x"⟩ ∈ normalizeOutboundHeaders [⟨.tuple, .b " Host", .b "x\t"⟩] ∧
    (∀ c ∈ (PyStr.b "host").codes, isUpper c = false) ∧
      surroundedBy isWhitespace (PyStr.b "host").codes = false ∧ surroundedBy isWhitespace (PyStr.b "x").codes = false :=
  have mem : ⟨.tuple, .b "host", .b "x"⟩ ∈ normalizeOutboundHeaders [⟨.tuple, .b " Host", .b "x\t"⟩] := by decide
  ⟨mem, normalized_headers_lowercase_and_stripped _ _ mem⟩

/-- Validating a normalised block on the way out raises nothing but `ProtocolError`, for every
block of octet or text strings, empty names included. -/
theorem normalized_outbound_raises_only_protocol_errors (headers : List (Header PyStr))
    (flags : HeaderValidationFlags) :
    ∀ e, (validateOutboundHeaders (normalizeOutboundHeaders headers) flags).raised = some e →
      ∃ problem, e = .protocolError problem :=
  fun e raised => PyException.exists_of_isProtocolError (validateOutboundHeaders_raised_isProtocolError _ flags e raised)

theorem normalized_outbound_raises_only_protocol_errors_on_te :
    (validateOutboundHeaders (normalizeOutboundHeaders [⟨.tuple, .b "TE", .b "gzip"⟩]) ⟨true, true, false, false⟩).raised =
        some (.protocolError (.invalidTe (.b "gzip"))) ∧
      ∃ problem, PyException.protocolError (.invalidTe (.b "gzip")) = .protocolError problem :=
  have raised : (validateOutboundHeaders (normalizeOutboundHeaders [⟨.tuple, .b "TE", .b "gzip"⟩])
      ⟨true, true, false, false⟩).raised = some (.protocolError (.invalidTe (.b "gzip"))) := by decide
  ⟨raised, normalized_outbound_raises_only_protocol_errors _ _ _ raised⟩

end H2.Utilities
