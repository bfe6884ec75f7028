import H2Proofs.Utilities.Encoding

/-!
# The auxiliary extractors

`extract_method_header` and `authority_from_headers` return the first value of one name as
`bytes`, whatever the block's encoding; `is_informational_response` scans the pseudo-header
prefix for `:status`, and returns `None`, not `False`, on a block of pseudo-headers without it.
-/

namespace H2.Utilities

/-! ### `extract_method_header` and `authority_from_headers` -/

/-- The loop the two extractors share: the value of the first header whose name is in
`names`, `v.encode('utf-8')` for a `str` and `v` for a `bytes`. -/
def firstValueEncoded (names : List PyStr) : List (Header PyStr) → Option PyStr
  | [] => none
  | header :: headers => if header.name ∈ names then some header.value.encode else firstValueEncoded names headers

/-- `extract_method_header`. -/
def extractMethodHeader (headers : List (Header PyStr)) : Option PyStr :=
  firstValueEncoded (bothForms ":method" rfl) headers

/-- `authority_from_headers`. -/
def authorityFromHeaders (headers : List (Header PyStr)) : Option PyStr :=
  firstValueEncoded (bothForms ":authority" rfl) headers

theorem firstValueEncoded_map_encode (s : String) (isAscii : (ascii s).all (·.val < 128) = true)
    (headers : List (Header PyStr)) :
    firstValueEncoded (bothForms s isAscii) (headers.map Header.encode) = firstValueEncoded (bothForms s isAscii) headers := by
  induction headers with
  | nil => rfl
  | cons x xs ih => simp [firstValueEncoded, ih, PyStr.encode]

/-- Both extractors read code points and return `bytes`, so the form of the block is
invisible to them. -/
theorem extractors_ignore_encoding (headers : List (Header PyStr)) :
    extractMethodHeader (headers.map Header.encode) = extractMethodHeader headers ∧
      authorityFromHeaders (headers.map Header.encode) = authorityFromHeaders headers :=
  ⟨firstValueEncoded_map_encode _ _ headers, firstValueEncoded_map_encode _ _ headers⟩

theorem lastValue_cons (name : Bytes) (h : Header Bytes) (block : List (Header Bytes)) :
    lastValue name (h :: block) = (lastValue name block).or (if h.name = name then some h.value else none) := by
  by_cases named : h.name = name <;> simp [lastValue, List.find?_append, Option.map_or', named]

theorem pseudoNames_cons (h : Header Bytes) (block : List (Header Bytes)) :
    pseudoNames (h :: block) = if isPseudoName h.name then h.name :: pseudoNames block else pseudoNames block := by
  simp only [pseudoNames, List.map_cons, List.filter_cons]

/-- On a block whose pseudo-header names are distinct, the first value of a pseudo-header is
its last one. -/
theorem firstValueEncoded_map_ofBytes (s : String) (isAscii : (ascii s).all (·.val < 128) = true)
    (pseudo : isPseudoName (ascii s)) {block : List (Header Bytes)} (distinct : (pseudoNames block).Nodup) :
    firstValueEncoded (bothForms s isAscii) (block.map Header.ofBytes) = (lastValue (ascii s) block).map .bytes := by
  induction block with
  | nil => rfl
  | cons h block ih =>
    by_cases first : h.name = ascii s
    · have unique : ascii s ∉ pseudoNames block := by
        rw [pseudoNames_cons, first, if_pos pseudo] at distinct
        exact (List.nodup_cons.mp distinct).1
      have absent : lastValue (ascii s) block = none := by
        simp only [lastValue, Option.map_eq_none', List.find?_eq_none, List.mem_reverse, decide_eq_true_eq]
        intro x mem named
        exact unique (List.mem_filter.mpr ⟨List.mem_map.mpr ⟨x, mem, named⟩, pseudo⟩)
      simp [firstValueEncoded, first, lastValue_cons, absent, PyStr.encode]
    · have rest : (pseudoNames block).Nodup := by
        rw [pseudoNames_cons] at distinct
        split_ifs at distinct
        · exact (List.nodup_cons.mp distinct).2
        · exact distinct
      simp [firstValueEncoded, first, lastValue_cons, ih rest]

/-- On a block `validate_headers` accepts, `authority_from_headers` returns the `:authority`
value that `_validate_host_authority_header` compared with `Host`, and `extract_method_header`
the only `:method` value. -/
theorem extractors_read_checked_values (block : List (Header Bytes)) (flags : HeaderValidationFlags)
    (accepted : validateHeaders (block.map Header.ofBytes) flags = .ok (block.map Header.ofBytes)) :
    authorityFromHeaders (block.map Header.ofBytes) =
        (lastValueOf (bothForms ":authority" rfl) (block.map Header.ofBytes)) ∧
      extractMethodHeader (block.map Header.ofBytes) = (lastValue (ascii ":method") block).map .bytes := by
  obtain ⟨pass, -⟩ := validateHeaders_eq_ok.mp accepted
  have distinct := (pseudoHeadersValid_map_ofBytes.mp pass.pseudo).distinct
  rw [lastValueOf_map_ofBytes]
  exact ⟨firstValueEncoded_map_ofBytes ":authority" rfl rfl distinct, firstValueEncoded_map_ofBytes ":method" rfl rfl distinct⟩

theorem extractors_read_checked_values_on_request :
    validateHeaders ([⟨.tuple, ascii ":method", ascii "GET"⟩, ⟨.tuple, ascii ":authority", ascii "x"⟩,
        ⟨.tuple, ascii "host", ascii "x"⟩].map Header.ofBytes) ⟨false, false, false, false⟩ =
      .ok ([⟨.tuple, ascii ":method", ascii "GET"⟩, ⟨.tuple, ascii ":authority", ascii "x"⟩,
        ⟨.tuple, ascii "host", ascii "x"⟩].map Header.ofBytes) ∧
    authorityFromHeaders ([⟨.tuple, ascii ":method", ascii "GET"⟩, ⟨.tuple, ascii ":authority", ascii "x"⟩,
        ⟨.tuple, ascii "host", ascii "x"⟩].map Header.ofBytes) =
      lastValueOf (bothForms ":authority" rfl) ([⟨.tuple, ascii ":method", ascii "GET"⟩,
        ⟨.tuple, ascii ":authority", ascii "x"⟩, ⟨.tuple, ascii "host", ascii "x"⟩].map Header.ofBytes) ∧
    extractMethodHeader ([⟨.tuple, ascii ":method", ascii "GET"⟩, ⟨.tuple, ascii ":authority", ascii "x"⟩,
        ⟨.tuple, ascii "host", ascii "x"⟩].map Header.ofBytes) =
      (lastValue (ascii ":method") [⟨.tuple, ascii ":method", ascii "GET"⟩, ⟨.tuple, ascii ":authority", ascii "x"⟩,
        ⟨.tuple, ascii "host", ascii "x"⟩]).map .bytes :=
  ⟨by decide, extractors_read_checked_values _ ⟨false, false, false, false⟩ (by decide)⟩

/-! ### `is_informational_response` -/

/-- The literal `s` in the form of `n`, as the source picks `b'...'` or `u'...'` after
`isinstance(n, bytes)`. -/
def PyStr.inFormOf (n : PyStr) (s : String) (isAscii : (ascii s).all (·.val < 128) = true) : PyStr :=
  if n.isBytes then .b s else .u s isAscii

/-- `is_informational_response`. `.ok none` is the `None` of a loop that ends without
returning; `TypeError` is a `startswith` given the other form. -/
def isInformationalResponse : List (Header PyStr) → Except PyException (Option Bool)
  | [] => .ok none
  | header :: headers =>
    let sigil := header.name.inFormOf ":" rfl
    let status := header.name.inFormOf ":status" rfl
    let informationalStart := header.name.inFormOf "1" rfl
    match header.name.startswith sigil with
    | none => .error .typeError
    | some false => .ok (some false)
    | some true =>
      if header.name ≠ status then isInformationalResponse headers
      else
        match header.value.startswith informationalStart with
        | none => .error .typeError
        | some informational => .ok (some informational)

theorem isInformationalResponse_cons_ofBytes (h : Header Bytes) (block : List (Header PyStr)) :
    isInformationalResponse (h.ofBytes :: block) =
      if isPseudoName h.name then
        if h.name = ascii ":status" then .ok (some ((ascii "1").isPrefixOf h.value))
        else isInformationalResponse block
      else .ok (some false) := by
  have sigil : (PyStr.bytes h.name).startswith (PyStr.b ":") = some (isPseudoName h.name) := rfl
  simp only [isInformationalResponse, Header.ofBytes_name, Header.ofBytes_value, PyStr.inFormOf, PyStr.isBytes,
    if_true, sigil]
  cases isPseudoName h.name
  · rfl
  · by_cases status : h.name = ascii ":status" <;> simp [status, PyStr.b, PyStr.startswith]

/-- What a scan of the whole block answers: whether some `:status` begins with `1`. -/
def hasInformationalStatus (block : List (Header Bytes)) : Bool :=
  block.any fun h => h.name = ascii ":status" && (ascii "1").isPrefixOf h.value

theorem hasInformationalStatus_cons (h : Header Bytes) (block : List (Header Bytes)) :
    hasInformationalStatus (h :: block) =
      (decide (h.name = ascii ":status") && (ascii "1").isPrefixOf h.value || hasInformationalStatus block) := rfl

theorem hasInformationalStatus_eq_false {block : List (Header Bytes)} (absent : ∀ x ∈ block, x.name ≠ ascii ":status") :
    hasInformationalStatus block = false := by
  simpa [hasInformationalStatus] using fun x mem named => absurd named (absent x mem)

/-- Pseudo-headers first and distinct: the loop stops at the first regular header, after which
no `:status` can come, and meets at most one `:status`. -/
theorem isInformationalResponse_map_ofBytes {block : List (Header Bytes)}
    (first : block.Pairwise fun x y => isPseudoName y.name → isPseudoName x.name)
    (distinct : (pseudoNames block).Nodup) :
    isInformationalResponse (block.map Header.ofBytes) =
      .ok (if (∀ h ∈ block, isPseudoName h.name) ∧ ascii ":status" ∉ pseudoNames block then none
        else some (hasInformationalStatus block)) := by
  induction block with
  | nil => rfl
  | cons h block ih =>
    obtain ⟨before, first⟩ := List.pairwise_cons.mp first
    have statusPseudo : isPseudoName (ascii ":status") := rfl
    rw [List.map_cons, isInformationalResponse_cons_ofBytes]
    by_cases pseudo : isPseudoName h.name
    · by_cases status : h.name = ascii ":status"
      · have unique : ascii ":status" ∉ pseudoNames block := by
          rw [pseudoNames_cons, if_pos pseudo, status] at distinct
          exact (List.nodup_cons.mp distinct).1
        have later : ∀ x ∈ block, x.name ≠ ascii ":status" := fun x mem named =>
          unique (List.mem_filter.mpr ⟨List.mem_map.mpr ⟨x, mem, named⟩, statusPseudo⟩)
        simp [pseudo, status, hasInformationalStatus_cons, hasInformationalStatus_eq_false later, pseudoNames_cons,
          statusPseudo]
      · have rest : (pseudoNames block).Nodup := by
          rw [pseudoNames_cons, if_pos pseudo] at distinct
          exact (List.nodup_cons.mp distinct).2
        rw [if_pos pseudo, if_neg status, ih first rest]
        simp [pseudo, status, hasInformationalStatus, pseudoNames_cons, Ne.symm status]
    · have regular : ∀ x ∈ block, isPseudoName x.name = false := fun x mem => by
        simpa [pseudo] using before x mem
      have notStatus : h.name ≠ ascii ":status" := fun named => pseudo (named ▸ statusPseudo)
      have later : ∀ x ∈ block, x.name ≠ ascii ":status" := fun x mem named =>
        absurd (named ▸ statusPseudo) (by simp [regular x mem])
      simp [pseudo, notStatus, hasInformationalStatus_cons, hasInformationalStatus_eq_false later]

/-- On a block `validate_headers` accepts, `is_informational_response` answers as a scan of the
whole block for a `:status` beginning with `1`, except that on a block of pseudo-headers with
no `:status` its loop ends and it returns `None`. -/
theorem is_informational_response_on_accepted_blocks (block : List (Header Bytes)) (flags : HeaderValidationFlags)
    (accepted : validateHeaders (block.map Header.ofBytes) flags = .ok (block.map Header.ofBytes)) :
    isInformationalResponse (block.map Header.ofBytes) =
      .ok (if (∀ h ∈ block, isPseudoName h.name) ∧ ascii ":status" ∉ pseudoNames block then none
        else some (hasInformationalStatus block)) := by
  obtain ⟨pass, -⟩ := validateHeaders_eq_ok.mp accepted
  have discipline := pseudoHeadersValid_map_ofBytes.mp pass.pseudo
  exact isInformationalResponse_map_ofBytes discipline.first discipline.distinct

theorem is_informational_response_on_continue :
    validateHeaders ([⟨.tuple, ascii ":status", ascii "100"⟩, ⟨.tuple, ascii "server", ascii "h2"⟩].map Header.ofBytes)
        ⟨true, false, true, false⟩ =
      .ok ([⟨.tuple, ascii ":status", ascii "100"⟩, ⟨.tuple, ascii "server", ascii "h2"⟩].map Header.ofBytes) ∧
    isInformationalResponse ([⟨.tuple, ascii ":status", ascii "100"⟩, ⟨.tuple, ascii "server", ascii "h2"⟩].map
        Header.ofBytes) =
      .ok (if (∀ h ∈ [(⟨.tuple, ascii ":status", ascii "100"⟩ : Header Bytes), ⟨.tuple, ascii "server", ascii "h2"⟩],
          isPseudoName h.name) ∧
          ascii ":status" ∉ pseudoNames [⟨.tuple, ascii ":status", ascii "100"⟩, ⟨.tuple, ascii "server", ascii "h2"⟩]
        then none
        else some (hasInformationalStatus [⟨.tuple, ascii ":status", ascii "100"⟩, ⟨.tuple, ascii "server", ascii "h2"⟩])) :=
  ⟨by decide, is_informational_response_on_accepted_blocks _ ⟨true, false, true, false⟩ (by decide)⟩

/-- The minimal client request of the spec's scenarios: `validate_headers` accepts it, and
`is_informational_response` returns `None` on it, not `False`. -/
theorem minimal_request_informational_is_none :
    validateHeaders [⟨.tuple, .b ":method", .b "GET"⟩, ⟨.tuple, .b ":scheme", .b "https"⟩,
        ⟨.tuple, .b ":authority", .b "x"⟩, ⟨.tuple, .b ":path", .b "/"⟩] ⟨false, false, false, false⟩ =
      .ok [⟨.tuple, .b ":method", .b "GET"⟩, ⟨.tuple, .b ":scheme", .b "https"⟩,
        ⟨.tuple, .b ":authority", .b "x"⟩, ⟨.tuple, .b ":path", .b "/"⟩] ∧
    isInformationalResponse [⟨.tuple, .b ":method", .b "GET"⟩, ⟨.tuple, .b ":scheme", .b "https"⟩,
        ⟨.tuple, .b ":authority", .b "x"⟩, ⟨.tuple, .b ":path", .b "/"⟩] = .ok none := by
  decide

end H2.Utilities
