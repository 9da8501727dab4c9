import Courier.Proofs.HeaderPrecedence
import Courier.Proofs.Base64
import Courier.Proofs.Utf8
import Mathlib.Data.List.Basic

/-!
# Basic credentials are read back

A user name and a password become one header value, from which they can be read again
(`Auth.basicCredentials_reads_back`): base 64 gives back the bytes, UTF-8 the text, and the first
colon parts the name from the password, unless the name has one itself. The value is ASCII, because
everything that can be decoded is, so it is never what keeps headers from being built.
-/

namespace Courier

open Text

namespace Auth

/-- The text that a header value of the basic scheme stands for. -/
def basicText? (value : String) : Option String := do
  let digits ← value.toList.dropPrefix? "Basic ".toList
  Utf8.decode? (← Base64.decode? digits)

/-- The two sides of the first colon of a text. -/
def partAtColon (s : String) : String × String :=
  (.ofList (s.toList.takeWhile (· != ':')), .ofList ((s.toList.dropWhile (· != ':')).drop 1))

/-- Settings of the basic scheme. What only other schemes need may be given as well. -/
def basic (username password : CodeText) (token apiKey apiKeyHeader : Option CodeText) : Auth :=
  ⟨.basic, some username, some password, token, apiKey, apiKeyHeader⟩

/-- The value of the header stands for the text that it is made of. -/
theorem basicText?_basicHeader (pair : String) : basicText? (basicHeader pair) = some pair := by
  have hdigits : ∀ front digits : List Char, (front ++ digits).dropPrefix? front = some digits :=
    fun front digits => List.dropPrefix?_append_of_beq digits (beq_self_eq_true front)
  simp only [basicText?, basicHeader, String.toList_append, String.toList_ofList, hdigits,
    Option.bind_eq_bind, Option.bind_some, Base64.decode?_encode, Utf8.decode?_encode]

/-- The first colon of a name without colons, a colon and a password is the one between. -/
theorem partAtColon_append {username : String} (h : ':' ∉ username.toList) (password : String) :
    partAtColon (username ++ ":" ++ password) = (username, password) := by
  have hkept : ∀ c ∈ username.toList, (c != ':') = true := by
    intro c hc
    rw [bne_iff_ne]
    rintro rfl
    exact h hc
  have htext : (username ++ ":" ++ password).toList =
      username.toList ++ ':' :: password.toList := by
    simp
  rw [partAtColon, htext, List.takeWhile_append_of_pos hkept, List.dropWhile_append_of_pos hkept]
  simp

/-- The value of the header is ASCII. -/
theorem isAscii_basicHeader (pair : String) : IsAscii (basicHeader pair) := by
  have hfront : IsAscii "Basic " := by decide
  refine hfront.append fun c hc => ?_
  rw [String.toList_ofList] at hc
  exact Base64.lt_of_decode? (Base64.decode?_encode _) c hc

/-- Two names without colons and their passwords have the same value only if they are the same. -/
theorem eq_of_basicHeader_eq {username password username' password' : String}
    (h : ':' ∉ username.toList) (h' : ':' ∉ username'.toList)
    (heq : basicHeader (username ++ ":" ++ password) =
      basicHeader (username' ++ ":" ++ password')) :
    (username, password) = (username', password') := by
  have htext : some (username ++ ":" ++ password) = some (username' ++ ":" ++ password') := by
    rw [← basicText?_basicHeader, heq, basicText?_basicHeader]
  rw [← partAtColon_append h password, Option.some.inj htext, partAtColon_append h' password']

end Auth

/-- A header that is ASCII is not what keeps headers from being built. -/
theorem headerFault?_cons_of_isAscii {name value : CodeText} (hname : name.IsAscii)
    (hvalue : value.IsAscii) (writes : List (CodeText × CodeText)) :
    headerFault? ((name, value) :: writes) = headerFault? writes := by
  have hinName := (EncodingFault.inAscii?_eq_none_iff name).2 hname
  have hinValue := (EncodingFault.inAscii?_eq_none_iff value).2 hvalue
  simp only [headerFault?, List.findSome?_cons, hinName, hinValue, Option.orElse_eq_or,
    Option.or_none]

/-- Where the settings contribute headers, the fault of building is the first among those that are
written. -/
theorem buildHeaders_eq_error_iff {auth : Auth} {entries : List Entry} {payload : Payload}
    {own : List (CodeText × CodeText)} (hown : auth.headers = .ok own) {fault : EncodingFault} :
    buildHeaders auth entries payload = .error fault ↔
      headerFault? (own ++ givenWrites entries payload) = some fault := by
  simp only [buildHeaders, hown, bind, Except.bind]
  cases headerFault? (own ++ givenWrites entries payload) with
  | none => simp only [pure, Except.pure, reduceCtorEq]
  | some first =>
    constructor
    · intro h
      exact congrArg some (Except.error.inj h)
    · intro h
      exact congrArg Except.error (Option.some.inj h)

namespace Auth

/-- A user name and a password under the basic scheme. They contribute one header, whose value is
ASCII, so that building headers fails exactly as it does without them. The value without its first
word, decoded from base 64 and then from UTF-8, is the name, a colon and the password. If there is
no colon in the name, the two sides of the first colon in that text are the name and the password,
and the value is that of no other such name and password. Only a name or a password with a surrogate
has no value. -/
theorem basicCredentials_reads_back (username password : String)
    (token apiKey apiKeyHeader : Option CodeText) :
    let auth := basic username password token apiKey apiKeyHeader
    ∃ value, basicCredentials username password = .ok value ∧
      auth.headers = .ok [CodeText.ofPair ("Authorization", value)] ∧
      IsAscii value ∧
      (∀ entries payload fault, buildHeaders auth entries payload = .error fault ↔
        buildHeaders absent entries payload = .error fault) ∧
      basicText? value = some (username ++ ":" ++ password) ∧
      (':' ∉ username.toList → (basicText? value).map partAtColon = some (username, password)) ∧
      (∀ username' password' : String, ':' ∉ username.toList → ':' ∉ username'.toList →
        (username, password) ≠ (username', password') →
          basicCredentials username' password' ≠ .ok value) ∧
      ∀ username' password' : CodeText,
        (∃ fault, basicCredentials username' password' = .error fault) ↔
          username'.toString? = none ∨ password'.toString? = none := by
  intro auth
  have hvalue : ∀ u p : String, basicCredentials u p = .ok (basicHeader (u ++ ":" ++ p)) :=
    fun u p => basicCredentials_eq_ok_iff.2 ⟨u, p, rfl, rfl, rfl⟩
  have hown : auth.headers = .ok [CodeText.ofPair
      ("Authorization", basicHeader (username ++ ":" ++ password))] := by
    simp only [auth, headers, basic, hvalue]
    rfl
  have hascii := isAscii_basicHeader (username ++ ":" ++ password)
  have htext := basicText?_basicHeader (username ++ ":" ++ password)
  refine ⟨_, hvalue username password, hown, hascii, ?_, htext, ?_, ?_,
    fun _ _ => exists_basicCredentials_eq_error_iff⟩
  · intro entries payload fault
    have hname : (CodeText.ofString "Authorization").IsAscii := by decide
    have hnone : absent.headers = .ok [] := rfl
    rw [buildHeaders_eq_error_iff hown, buildHeaders_eq_error_iff hnone]
    exact iff_of_eq (congrArg (· = some fault) (headerFault?_cons_of_isAscii hname
      (CodeText.isAscii_ofString_iff.2 hascii) (givenWrites entries payload)))
  · intro h
    rw [htext, Option.map_some, partAtColon_append h password]
  · intro username' password' h h' hne heq
    rw [hvalue] at heq
    exact hne (eq_of_basicHeader_eq h h' (Except.ok.inj heq).symm)

/-- `basicCredentials_reads_back` at characters of one to four bytes and a password with a colon. -/
theorem basicCredentials_reads_back_wide :
    ∃ value, basicCredentials "aé€𝄞" "p:q" = .ok value ∧
      basicText? value = some "aé€𝄞:p:q" ∧
      (':' ∉ "aé€𝄞".toList ∧ (basicText? value).map partAtColon = some ("aé€𝄞", "p:q")) ∧
      ':' ∉ "aé€𝄞".toList ∧ ':' ∉ "".toList ∧ ("aé€𝄞", "p:q") ≠ ("", "") ∧
      basicCredentials "" "" ≠ .ok value := by
  have hcolon : ':' ∉ "aé€𝄞".toList := by decide
  have hempty : ':' ∉ "".toList := by decide
  have hne : ("aé€𝄞", "p:q") ≠ ("", "") := by decide
  obtain ⟨value, hvalue, -, -, -, htext, hparts, hother, -⟩ :=
    basicCredentials_reads_back "aé€𝄞" "p:q" none none none
  exact ⟨value, hvalue, htext, ⟨hcolon, hparts hcolon⟩, hcolon, hempty, hne,
    hother "" "" hcolon hempty hne⟩

end Auth

end Courier
