/- What a caller reads in the body of an error: strings in JSON are read back, and so are objects of
them. -/
import TenantScope.Http.Message
import TenantScope.Proofs.Http.Values
import TenantScope.Proofs.Text.Digits
import TenantScope.Proofs.Text.Split
import TenantScope.Proofs.Text.Utf8

namespace TenantScope.Json

/-! A reader of objects whose members are strings -/

/-- What a letter behind a backslash stands for. -/
def short? : Char → Option Char
  | '"' => some '"'
  | '\\' => some '\\'
  | '/' => some '/'
  | 'b' => some '\x08'
  | 'f' => some '\x0c'
  | 'n' => some '\n'
  | 'r' => some '\r'
  | 't' => some '\t'
  | _ => none

/-- The character with the code point that some hexadecimal digits write, if there is one. -/
def coded? (digits : Text) : Option Char :=
  let n := Text.toNat 16 digits
  if digits.all (Text.isDigitIn 16) ∧ n.isValidChar then some (Char.ofNat n) else none

/-- Reads a string behind its opening quote, and returns what follows the closing one. Control
characters stand in no string, and of the codes of four digits none is half of a character. -/
def characters? : Text → Option (Text × Text)
  | [] => none
  | '"' :: s => some ([], s)
  | '\\' :: 'u' :: h₁ :: h₂ :: h₃ :: h₄ :: s => do
    let c ← coded? [h₁, h₂, h₃, h₄]
    let (v, s) ← characters? s
    return (c :: v, s)
  | '\\' :: letter :: s => do
    let c ← short? letter
    let (v, s) ← characters? s
    return (c :: v, s)
  | c :: s =>
    if c.toNat < 0x20 then none
    else do
      let (v, s) ← characters? s
      return (c :: v, s)

def string? : Text → Option (Text × Text)
  | '"' :: s => characters? s
  | _ => none

/-- Reads a member: its name, a colon and its value. -/
def member? (s : Text) : Option ((Text × Text) × Text) := do
  let (name, s) ← string? s
  let s ← Text.dropLead? [':'] s
  let (value, s) ← string? s
  return ((name, value), s)

/-- Reads members with commas between them and the brace that closes them. -/
def members? : (fuel : Nat) → Text → Option (List (Text × Text) × Text)
  | 0, _ => none
  | fuel + 1, s => do
    let (m, s) ← member? s
    match s with
    | ',' :: s =>
      let (ms, s) ← members? fuel s
      return (m :: ms, s)
    | '}' :: s => return ([m], s)
    | _ => none

/-- Reads an object of one member or more, written without blanks; nothing may stand behind it. -/
def object? : Text → Option (List (Text × Text))
  | '{' :: s =>
    match members? s.length s with
    | some (ms, []) => some ms
    | _ => none
  | _ => none

/-! Strings -/

/-- The characters that are written as a backslash and a letter. -/
def shortEscaped : List Char := ['"', '\\', '\x08', '\x0c', '\n', '\r', '\t']

/-- A character is written by one of three rules: a backslash and a letter, its code point, or the
character itself. -/
theorem jsonChar_cases (c : Char) :
    c ∈ shortEscaped ∨
      (c.toNat < 0x20 ∧ jsonChar c = ['\\', 'u'] ++ Text.padZeros 4 (Text.hex c.toNat)) ∨
      (c ∉ shortEscaped ∧ ¬c.toNat < 0x20 ∧ jsonChar c = [c]) := by
  by_cases hshort : c ∈ shortEscaped
  · exact .inl hshort
  · have hlong := hshort
    simp only [shortEscaped, List.mem_cons, List.not_mem_nil, or_false, not_or] at hlong
    obtain ⟨hquote, hbackslash, hback, hform, hfeed, hreturn, htab⟩ := hlong
    rw [jsonChar, if_neg hquote, if_neg hbackslash, if_neg hback, if_neg hform, if_neg hfeed,
      if_neg hreturn, if_neg htab]
    split
    · next h => exact .inr (.inl ⟨h, rfl⟩)
    · next h => exact .inr (.inr ⟨hshort, h, rfl⟩)

/-- The code point of a control character is read as that character. -/
theorem coded?_hex {c : Char} (hc : c.toNat < 0x20) :
    coded? (Text.padZeros 4 (Text.hex c.toNat)) = some c := by
  have hhigh := Text.digit?_digitChar (c.toNat / 16) (by omega)
  have hlow := Text.digit?_digitChar (c.toNat % 16) (by omega)
  have hzero : Text.digit? 16 '0' = some 0 := by decide
  have hdigits : (Text.padZeros 4 (Text.hex c.toNat)).all (Text.isDigitIn 16) = true := by
    rw [Text.padZeros_hex 2 (by omega)]
    simp only [List.replicate, List.cons_append, List.nil_append, List.all_cons, List.all_nil,
      Text.isDigitIn, hzero, hhigh, hlow, Option.isSome_some, Bool.and_self]
  have hvalue : Text.toNat 16 (Text.padZeros 4 (Text.hex c.toNat)) = c.toNat := by
    rw [Text.padZeros_hex 2 (by omega)]
    simp only [List.replicate, List.cons_append, List.nil_append, Text.toNat, List.foldl_cons,
      List.foldl_nil, hzero, hhigh, hlow, Option.getD_some]
    omega
  have hvalid : c.toNat.isValidChar := c.valid
  simp only [coded?, hdigits, hvalue, hvalid, and_self, if_true, Char.ofNat_toNat]

/-- A letter behind a backslash; the only one of those that are read with more is no short one. -/
theorem characters?_short {letter c : Char} (h : short? letter = some c) (s : Text) :
    characters? ('\\' :: letter :: s) = (characters? s).map fun p => (c :: p.1, p.2) := by
  have hletter : letter ≠ 'u' := by
    rintro rfl
    cases h
  rw [characters?]
  · rw [h]
    cases characters? s <;> rfl
  · exact fun _ _ _ _ _ hcode => absurd hcode hletter

/-- Whatever a character is written as, it is read as that character. -/
theorem characters?_jsonChar (c : Char) (s : Text) :
    characters? (jsonChar c ++ s) = (characters? s).map fun p => (c :: p.1, p.2) := by
  rcases jsonChar_cases c with hshort | ⟨hc, hchar⟩ | ⟨hlong, hc, hchar⟩
  · simp only [shortEscaped, List.mem_cons, List.not_mem_nil, or_false] at hshort
    rcases hshort with rfl | rfl | rfl | rfl | rfl | rfl | rfl <;> exact characters?_short rfl s
  · have hcoded := coded?_hex hc
    rw [Text.padZeros_hex 2 (by omega)] at hcoded
    rw [hchar, Text.padZeros_hex 2 (by omega)]
    simp only [List.replicate, List.cons_append, List.nil_append] at hcoded ⊢
    rw [characters?, hcoded]
    cases characters? s <;> rfl
  · have hne : ∀ d ∈ shortEscaped, c ≠ d := fun d hd h => hlong (h ▸ hd)
    have hbackslash := hne '\\' (by decide)
    rw [hchar, List.singleton_append, characters?, if_neg hc]
    · cases characters? s <;> rfl
    · exact hne '"' (by decide)
    · exact fun _ _ _ _ _ h => absurd h hbackslash
    · exact fun _ _ h => absurd h hbackslash

/-- A string is read back, and nothing of what follows it is taken. -/
theorem string?_jsonString (v s : Text) : string? (jsonString v ++ s) = some (v, s) := by
  have hbody : characters? (v.flatMap jsonChar ++ '"' :: s) = some (v, s) := by
    induction v with
    | nil => rfl
    | cons c v ih => rw [List.flatMap_cons, List.append_assoc, characters?_jsonChar, ih]; rfl
  rw [jsonString, List.append_assoc]
  exact hbody

/-! Objects -/

theorem member?_jsonMember (m : Text × Text) (s : Text) :
    member? (jsonMember m ++ s) = some (m, s) := by
  rw [jsonMember, List.append_assoc, member?, string?_jsonString]
  simp only [List.cons_append, Option.bind_eq_bind, Option.bind_some, Text.dropLead?, if_true,
    string?_jsonString]
  rfl

/-- Members are read back, up to the brace behind them. -/
theorem members?_join {ms : List (Text × Text)} (hms : ms ≠ []) {fuel : Nat}
    (hfuel : ms.length ≤ fuel) (s : Text) :
    members? fuel (Text.join [','] (ms.map jsonMember) ++ '}' :: s) = some (ms, s) := by
  induction ms generalizing fuel with
  | nil => exact absurd rfl hms
  | cons m ms ih =>
    obtain ⟨fuel, rfl⟩ := Nat.exists_eq_add_one_of_ne_zero (Nat.ne_zero_of_lt hfuel)
    cases ms with
    | nil =>
      rw [List.map_singleton, Text.join_singleton, members?, member?_jsonMember]
      rfl
    | cons n ms =>
      have hrest := ih (List.cons_ne_nil n ms) (Nat.le_of_succ_le_succ hfuel)
      rw [List.map_cons, List.map_cons, Text.join_cons_cons, List.append_assoc, List.append_assoc,
        ← List.map_cons, members?, member?_jsonMember]
      simp only [Option.bind_eq_bind, Option.bind_some, List.singleton_append, hrest]
      rfl

theorem length_le_length_join (ms : List (Text × Text)) :
    ms.length ≤ (Text.join [','] (ms.map jsonMember)).length := by
  induction ms with
  | nil => exact Nat.zero_le _
  | cons m ms ih =>
    cases ms with
    | nil =>
      rw [List.map_singleton, Text.join_singleton]
      exact Nat.succ_le_succ (Nat.zero_le _)
    | cons n ms =>
      rw [List.map_cons, List.map_cons, Text.join_cons_cons, ← List.map_cons]
      simp only [List.length_append, List.length_cons] at ih ⊢
      omega

/-- An object of one member or more is read back. -/
theorem object?_jsonObject {ms : List (Text × Text)} (hms : ms ≠ []) :
    object? (jsonObject ms) = some ms := by
  have hfuel : ms.length ≤ (Text.join [','] (ms.map jsonMember) ++ ['}']).length := by
    rw [List.length_append]
    exact Nat.le_add_right_of_le (length_le_length_join ms)
  rw [jsonObject, List.cons_append, object?, members?_join hms hfuel]

end TenantScope.Json

namespace TenantScope

/-! Responses -/

/-- The members of the object that a caller reads in the body of a response. -/
def Response.members? (a : Response) : Option (List (Text × Text)) :=
  match a.body with
  | .whole bytes => (Utf8.decode? bytes).bind Json.object?
  | .relayed _ => none

/-- A response that tells its caller about an error of some type, as the query API does. -/
structure Response.Tells (a : Response) (status : Nat) (errorType message : Text) : Prop where
  status_eq : a.status = status
  contentType : valuesOf "content-type".toList a.headers = ["application/json".toList]
  members : a.members? = some [("error".toList, message), ("errorType".toList, errorType),
    ("status".toList, "error".toList)]

/-- The answer to a request that fails tells the caller what the error is. -/
theorem RequestError.response_tells (e : RequestError) :
    e.response.Tells e.status e.errorType e.message where
  status_eq := rfl
  contentType := rfl
  members := by
    change (Utf8.decode? (Utf8.encode e.envelope)).bind Json.object? = _
    rw [Utf8.decode?_encode, Option.bind_some, envelope]
    exact Json.object?_jsonObject (List.cons_ne_nil _ _)

end TenantScope
