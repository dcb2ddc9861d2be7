import PiDaemon.Lib.Base64Url
import PiDaemon.Lib.Json

/-!
# Session cookies

The cookie of a browser session: a random key and the HMAC of it, how a `Cookie` header is searched
for it, and how its value is verified.  `createHmac` with the signing key of the instance, and
`createHash`, are functions from bytes to digests.

* `parseCookie_some`: the value found is that of the only cookie of the name;
* `verifyCookie_some`: the values verified are the signed keys.
-/

namespace PiDaemon.Browser

open Lib

def DASH_BROWSER_COOKIE : JsString := text "pi-daemon-dash"

def DASH_BROWSER_SECURE_COOKIE : JsString := text "__Host-pi-daemon-dash"

def MAX_COOKIE_HEADER_BYTES : Nat := 8192

/-- A fixed number of bytes. -/
abbrev Bytes (n : Nat) := { bytes : List UInt8 // bytes.length = n }

/-- `buffer.toString("base64url")` -/
def token {n : Nat} (bytes : Bytes n) : JsString := base64Url bytes

theorem length_token {n : Nat} (bytes : Bytes n) : (token bytes).length = (4 * n + 2) / 3 := by
  rw [token, length_base64Url, bytes.2]

/-- `string | string[] | undefined` -/
inductive HeaderValue where
  | absent
  | one (value : JsString)
  | many (values : List JsString)
  deriving DecidableEq

/-! ## Parsing -/

/-- The value of a part of the header that is a cookie of the name. -/
def namedValue (name part : JsString) : Option JsString :=
  if 0x3d ∈ part ∧ trim (part.takeWhile (· ≠ 0x3d)) = name then
    some (trim ((part.dropWhile (· ≠ 0x3d)).drop 1))
  else none

/-- The loop of `parseCookie`. -/
def findCookie (name : JsString) (found : Option JsString) : List JsString → Option JsString
  | [] => found
  | part :: parts =>
    match namedValue name part with
    | none => findCookie name found parts
    | some value => if found.isSome then none else findCookie name (some value) parts

def parseCookie (header : HeaderValue) (name : JsString) : Option JsString :=
  match header with
  | .one header =>
    if MAX_COOKIE_HEADER_BYTES < byteLength header then none
    else findCookie name none (header.splitOn 0x3b)
  | _ => none

/-- The values of the cookies of a name in a header, in their order. -/
def cookiesNamed (name header : JsString) : List JsString :=
  (header.splitOn 0x3b).filterMap (namedValue name)

theorem findCookie_found {name value : JsString} {parts : List JsString} {found : JsString} :
    findCookie name (some found) parts = some value ↔
      parts.filterMap (namedValue name) = [] ∧ found = value := by
  induction parts with
  | nil => simp [findCookie]
  | cons part parts ih =>
    cases hpart : namedValue name part with
    | none => simp [findCookie, hpart, ih]
    | some => simp [findCookie, hpart]

theorem findCookie_none {name value : JsString} {parts : List JsString} :
    findCookie name none parts = some value ↔ parts.filterMap (namedValue name) = [value] := by
  induction parts with
  | nil => simp [findCookie]
  | cons part parts ih =>
    cases hpart : namedValue name part with
    | none => simp [findCookie, hpart, ih]
    | some =>
      simp only [findCookie, hpart, Option.isSome_none, Bool.false_eq_true, if_false,
        findCookie_found, List.filterMap_cons_some hpart, List.cons.injEq]
      exact and_comm

/-- The header is one string within the limit, and holds one cookie of the name. -/
theorem parseCookie_some {header : HeaderValue} {name value : JsString} :
    parseCookie header name = some value ↔
      ∃ text, header = .one text ∧ byteLength text ≤ MAX_COOKIE_HEADER_BYTES ∧
        cookiesNamed name text = [value] := by
  cases header with
  | absent => simp [parseCookie]
  | many => simp [parseCookie]
  | one =>
    simp only [parseCookie, HeaderValue.one.injEq, exists_eq_left', cookiesNamed]
    split
    · constructor
      · intro h
        cases h
      · rintro ⟨hshort, -⟩
        omega
    · rw [findCookie_none]
      exact ⟨fun h => ⟨by omega, h⟩, And.right⟩

/-! ## Signing -/

/-- What the cookies of an instance depend on. -/
structure CookieSigning where
  secureCookies : Bool
  /-- `createHmac("sha256", signingKey)` -/
  hmac : List UInt8 → Bytes 32
  /-- `createHash("sha256")` -/
  sha256 : List UInt8 → Bytes 32

namespace CookieSigning

variable (auth : CookieSigning)

def cookieName : JsString :=
  if auth.secureCookies then DASH_BROWSER_SECURE_COOKIE else DASH_BROWSER_COOKIE

def csrfToken (sessionKey : JsString) : JsString :=
  token (auth.hmac (utf8Encode (text "csrf-v1" ++ [0]) ++ utf8Encode sessionKey))

def digest (value : JsString) : Bytes 32 := auth.sha256 (utf8Encode value)

def signedCookie (sessionKey : JsString) : JsString :=
  text "v1" ++ 0x2e :: (sessionKey ++ 0x2e :: token (auth.hmac (utf8Encode sessionKey)))

/-- `[A-Za-z0-9_-]{low,high}` -/
def isTokenText (low high : Nat) (value : JsString) : Bool :=
  low ≤ value.length && value.length ≤ high && value.all isBase64UrlUnit

/-- The groups of the expression hold no dot, so that the match is by the dots. -/
def verifyCookie (value : JsString) : Option JsString :=
  if 256 < value.length then none
  else
    match value.splitOn 0x2e with
    | [version, sessionKey, signature] =>
      if version = text "v1" ∧ isTokenText 40 64 sessionKey ∧ isTokenText 43 43 signature ∧
          utf8Encode value = utf8Encode (auth.signedCookie sessionKey) then
        some sessionKey
      else none
    | _ => none

/-- A session key that a cookie can carry. -/
def IsSessionKey (sessionKey : JsString) : Prop := isTokenText 40 64 sessionKey = true

theorem isSessionKey_token (bytes : Bytes 32) : IsSessionKey (token bytes) := by
  simp only [IsSessionKey, isTokenText, length_token, Bool.and_eq_true, decide_eq_true_eq,
    List.all_eq_true]
  exact ⟨by decide, isBase64Url_base64Url bytes⟩

theorem isTokenText_isBase64Url {low high : Nat} {value : JsString}
    (h : isTokenText low high value = true) : IsBase64Url value := by
  simp only [isTokenText, Bool.and_eq_true, List.all_eq_true] at h
  exact h.2

theorem dot_notMem {value : JsString} (h : IsBase64Url value) : (0x2e : UInt16) ∉ value :=
  fun hmem => absurd (h _ hmem) (by decide)

theorem ascii_joined {sessionKey signature : JsString} (h : IsBase64Url sessionKey)
    (hsignature : IsBase64Url signature) :
    Ascii (text "v1" ++ 0x2e :: (sessionKey ++ 0x2e :: signature)) := by
  intro u hu
  simp only [List.mem_append, List.mem_cons] at hu
  rcases hu with hu | rfl | hu | rfl | hu
  · exact (by decide : Ascii (text "v1")) u hu
  · decide
  · exact isBase64UrlUnit_ascii (h u hu)
  · decide
  · exact isBase64UrlUnit_ascii (hsignature u hu)

theorem ascii_signedCookie {sessionKey : JsString} (h : IsBase64Url sessionKey) :
    Ascii (auth.signedCookie sessionKey) :=
  ascii_joined h (isBase64Url_base64Url (auth.hmac (utf8Encode sessionKey)))

theorem splitOn_three {a b c : JsString} (ha : (0x2e : UInt16) ∉ a) (hb : (0x2e : UInt16) ∉ b)
    (hc : (0x2e : UInt16) ∉ c) : (a ++ 0x2e :: (b ++ 0x2e :: c)).splitOn 0x2e = [a, b, c] := by
  rw [List.splitOn_append_cons_self_of_not_mem ha, List.splitOn_append_cons_self_of_not_mem hb,
    List.splitOn_eq_singleton hc]

theorem splitOn_signedCookie {sessionKey : JsString} (h : IsBase64Url sessionKey) :
    (auth.signedCookie sessionKey).splitOn 0x2e =
      [text "v1", sessionKey, token (auth.hmac (utf8Encode sessionKey))] :=
  splitOn_three (by decide) (dot_notMem h)
    (dot_notMem (isBase64Url_base64Url (auth.hmac (utf8Encode sessionKey))))

theorem length_signedCookie (sessionKey : JsString) :
    (auth.signedCookie sessionKey).length = sessionKey.length + 47 := by
  simp only [signedCookie, List.length_append, List.length_cons, length_token]
  have : (text "v1").length = 2 := by decide
  omega

/-- The values that are verified are the signed session keys. -/
theorem verifyCookie_some {value sessionKey : JsString} :
    auth.verifyCookie value = some sessionKey ↔
      IsSessionKey sessionKey ∧ value = auth.signedCookie sessionKey := by
  constructor
  · intro h
    obtain ⟨_, h⟩ := Option.ite_none_left_eq_some.mp h
    split at h
    · rename_i version key signature hsplit
      split at h
      · rename_i hmatch
        cases h
        obtain ⟨rfl, hkey, hsignature, hbytes⟩ := hmatch
        have hdigits := isTokenText_isBase64Url hkey
        have hvalue : value = text "v1" ++ 0x2e :: (sessionKey ++ 0x2e :: signature) := by
          have hjoin : [0x2e].intercalate (value.splitOn 0x2e) = value :=
            List.intercalate_splitOn 0x2e
          rw [hsplit] at hjoin
          simpa [List.intercalate] using hjoin.symm
        have hascii : Ascii value := by
          rw [hvalue]
          exact ascii_joined hdigits (isTokenText_isBase64Url hsignature)
        exact ⟨hkey, hascii.utf8Encode_inj (auth.ascii_signedCookie hdigits) hbytes⟩
      · cases h
    · cases h
  · rintro ⟨hkey, rfl⟩
    have hdigits := isTokenText_isBase64Url hkey
    have hlength : ¬ 256 < (auth.signedCookie sessionKey).length := by
      simp only [IsSessionKey, isTokenText, Bool.and_eq_true, decide_eq_true_eq] at hkey
      rw [length_signedCookie]
      omega
    have hsignature : isTokenText 43 43 (token (auth.hmac (utf8Encode sessionKey))) = true := by
      simp only [isTokenText, length_token, Bool.and_eq_true, decide_eq_true_eq, List.all_eq_true]
      exact ⟨by decide, isBase64Url_base64Url _⟩
    rw [verifyCookie, if_neg hlength, splitOn_signedCookie auth hdigits]
    exact if_pos ⟨rfl, hkey, hsignature, rfl⟩

/-- `#serializeCookie`; a time to live of whole milliseconds. -/
def serializeCookie (value : JsString) (ttlMs : Nat) : JsString :=
  joinWith (text "; ") ([
    auth.cookieName ++ text "=" ++ value,
    text "Path=/dash/",
    text "HttpOnly",
    text "SameSite=Strict",
    text "Max-Age=" ++ text (toString (ttlMs / 1000))] ++
    if auth.secureCookies then [text "Secure"] else [])

theorem joinWith_cons_inj {separator a b : JsString} {rest : List JsString}
    (h : joinWith separator (a :: rest) = joinWith separator (b :: rest)) : a = b := by
  cases rest with
  | nil => exact h
  | cons => exact List.append_cancel_right h

theorem serializeCookie_inj {a b : JsString} {ttlMs : Nat}
    (h : auth.serializeCookie a ttlMs = auth.serializeCookie b ttlMs) : a = b :=
  List.append_cancel_left (joinWith_cons_inj h)

/-- **Signed cookies**: a request presents a session key exactly when its one `Cookie` header is within
the byte bound and has a single cookie of the name, and that is the signed key. -/
theorem presented_key_signed {header : HeaderValue} {key : JsString} :
    (parseCookie header auth.cookieName).bind auth.verifyCookie = some key ↔
      IsSessionKey key ∧ ∃ text, header = .one text ∧
        byteLength text ≤ MAX_COOKIE_HEADER_BYTES ∧ cookiesNamed auth.cookieName text = [auth.signedCookie key] := by
  simp only [Option.bind_eq_some_iff, parseCookie_some, verifyCookie_some]
  constructor
  · rintro ⟨_, ⟨text, rfl, hsize, hone⟩, hkey, rfl⟩
    exact ⟨hkey, text, rfl, hsize, hone⟩
  · rintro ⟨hkey, text, rfl, hsize, hone⟩
    exact ⟨_, ⟨text, rfl, hsize, hone⟩, hkey, rfl⟩

end CookieSigning

end PiDaemon.Browser
