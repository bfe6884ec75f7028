import H2Proofs.Utilities.Strings

/-!
# Header tuples, flags and the pipeline's exceptions

A header is a two-tuple whose class matters to HPACK: `_secure_headers` turns credentials into
`NeverIndexedHeaderTuple`s and the rebuilding generators keep each tuple's class. The frozensets
of `h2.utilities` list every name in both forms; `mem_bothForms` reduces membership in them to
code points.
-/

namespace H2.Utilities

/-- The class of a header tuple: a plain `tuple`, an hpack `HeaderTuple`, or hpack's
`NeverIndexedHeaderTuple`, the one HPACK must not index. -/
inductive TupleKind
  | tuple
  | headerTuple
  | neverIndexedHeaderTuple
  deriving DecidableEq, Repr

/-- A header field `(name, value)` with the class of its tuple. -/
structure Header (σ : Type) where
  kind : TupleKind
  name : σ
  value : σ
  deriving DecidableEq, Repr

/-- The same tuple with name and value mapped. -/
def Header.map {σ τ : Type} (f : σ → τ) (h : Header σ) : Header τ := ⟨h.kind, f h.name, f h.value⟩

/-- An octet header as the pipeline sees it. -/
def Header.ofBytes (h : Header Bytes) : Header PyStr := h.map .bytes

@[simp] theorem Header.ofBytes_kind (h : Header Bytes) : h.ofBytes.kind = h.kind := rfl
@[simp] theorem Header.ofBytes_name (h : Header Bytes) : h.ofBytes.name = .bytes h.name := rfl
@[simp] theorem Header.ofBytes_value (h : Header Bytes) : h.ofBytes.value = .bytes h.value := rfl

/-- `HeaderValidationFlags`. -/
structure HeaderValidationFlags where
  isClient : Bool
  isTrailer : Bool
  isResponseHeader : Bool
  isPushPromise : Bool
  deriving DecidableEq, Repr

/-- The message of a `ProtocolError` raised by the header pipeline: one constructor per
`raise`, carrying the value its message formats. -/
inductive HeaderProblem
  /-- "Received uppercase header name %s." -/
  | uppercaseName (name : PyStr)
  /-- "Received header name surrounded by whitespace %r" -/
  | nameSurroundedByWhitespace (name : PyStr)
  /-- "Received header value surrounded by whitespace %r" -/
  | valueSurroundedByWhitespace (value : PyStr)
  /-- "Invalid value for Transfer-Encoding header: %s" -/
  | invalidTe (value : PyStr)
  /-- "Connection-specific header field present: %s." -/
  | connectionSpecific (name : PyStr)
  /-- "Received duplicate pseudo-header field %s" -/
  | duplicatePseudoHeader (name : PyStr)
  /-- "Received pseudo-header field out of sequence: %s" -/
  | pseudoHeaderOutOfSequence (name : PyStr)
  /-- "Received custom pseudo-header field %s" -/
  | customPseudoHeader (name : PyStr)
  /-- "Received pseudo-header in trailer %s", with the set of pseudo-header names seen. -/
  | pseudoHeaderInTrailer (seen : List PyStr)
  /-- "Response header block does not have a :status header" -/
  | missingStatus
  /-- "Request header block does not have an :authority or Host header." -/
  | missingAuthorityAndHost
  /-- "Request header block has mismatched :authority and Host headers: %r / %r" -/
  | mismatchedAuthorityAndHost (authority host : PyStr)
  deriving DecidableEq, Repr

/-- An exception that escapes the header pipeline. -/
inductive PyException
  | protocolError (problem : HeaderProblem)
  /-- `header[0][0]` on an empty name. -/
  | indexError
  /-- `UPPER_RE`, a `bytes` pattern, searching a `str`; or `bytes.startswith` given a `str`. -/
  | typeError
  deriving DecidableEq, Repr

/-- `True` for a `ProtocolError`. -/
def PyException.isProtocolError : PyException → Bool
  | protocolError _ => true
  | _ => false

/-! ### The sets of `h2.utilities` -/

/-- `CONNECTION_HEADERS`, from RFC 7540 § 8.1.2.2. -/
def connectionHeaders : List PyStr :=
  bothForms "connection" rfl ++ bothForms "proxy-connection" rfl ++ bothForms "keep-alive" rfl ++
    bothForms "transfer-encoding" rfl ++ bothForms "upgrade" rfl

/-- `_ALLOWED_PSEUDO_HEADER_FIELDS`. -/
def allowedPseudoHeaderFields : List PyStr :=
  bothForms ":method" rfl ++ bothForms ":scheme" rfl ++ bothForms ":authority" rfl ++
    bothForms ":path" rfl ++ bothForms ":status" rfl

/-- `_SECURE_HEADERS`. -/
def secureHeaderSet : List PyStr := bothForms "authorization" rfl ++ bothForms "proxy-authorization" rfl

/-- The octets of the connection-specific names. -/
def connectionNames : List Bytes :=
  [ascii "connection", ascii "proxy-connection", ascii "keep-alive", ascii "transfer-encoding",
    ascii "upgrade"]

/-- The octets of the allowed pseudo-header names. -/
def pseudoHeaderNames : List Bytes :=
  [ascii ":method", ascii ":scheme", ascii ":authority", ascii ":path", ascii ":status"]

/-- The octets of the credential names. -/
def secureNames : List Bytes := [ascii "authorization", ascii "proxy-authorization"]

theorem mem_connectionHeaders {x : PyStr} : x ∈ connectionHeaders ↔ x.codes ∈ connectionNames := by
  simp [connectionHeaders, connectionNames, or_assoc]

theorem mem_allowedPseudoHeaderFields {x : PyStr} :
    x ∈ allowedPseudoHeaderFields ↔ x.codes ∈ pseudoHeaderNames := by
  simp [allowedPseudoHeaderFields, pseudoHeaderNames, or_assoc]

theorem mem_secureHeaderSet {x : PyStr} : x ∈ secureHeaderSet ↔ x.codes ∈ secureNames := by
  simp [secureHeaderSet, secureNames]

end H2.Utilities
