/- What is said about a backend that cannot be reached shows no user information of its address. -/
import TenantScope.Proofs.Http.Confinement
import TenantScope.Proofs.Text.Percent

namespace TenantScope

/-! User information -/

namespace Url

theorem toNat_lt_of_isUserinfoChar {c : Char} (h : isUserinfoChar c = true) : c.toNat < 0x80 := by
  simp only [isUserinfoChar, isPathChar, isGraph, Bool.and_eq_true, decide_eq_true_eq] at h
  omega

/-- No colon is kept in an encoded name or password. -/
theorem colon_not_mem_encode (s : Text) : ':' ∉ Percent.encode isUserinfoChar s := by
  intro hmem
  obtain ⟨c, -, hc⟩ := List.mem_flatMap.mp hmem
  split at hc
  · next hkept =>
    rw [← List.mem_singleton.mp hc] at hkept
    cases hkept
  · obtain ⟨b, -, hb⟩ := List.mem_flatMap.mp hc
    exact absurd (Form.isPartChar_of_mem_encodeByte hb) (by decide)

/-- A name or a password without percent signs can be read from its encoded form. -/
theorem decode?_encode_userinfo {s : Text} (h : '%' ∉ s) :
    Utf8.decode? (Percent.decode (Utf8.encode (Percent.encode isUserinfoChar s))) = some s := by
  rw [Percent.decode_encode (fun _ => toNat_lt_of_isUserinfoChar) h, Utf8.decode?_encode]

end Url

namespace Authority

/-- A name and a password that can both be read are taken off. -/
theorem anonymous_of_split {a : Authority} {name : Text} (password : Option Text)
    (hsplit : splitFirst (· == ':') a.userinfo = (Percent.encode Url.isUserinfoChar name,
      password.map (Percent.encode Url.isUserinfoChar)))
    (hname : '%' ∉ name) (hpassword : ∀ w ∈ password, '%' ∉ w) :
    a.anonymous = { a with userinfo := [] } := by
  unfold anonymous
  rw [hsplit]
  dsimp only
  rw [Url.decode?_encode_userinfo hname]
  cases password with
  | none =>
    cases name with
    | nil =>
      have hnone : a.userinfo = [] := eq_of_splitFirst_none hsplit
      exact congrArg (fun u => ({ a with userinfo := u } : Authority)) hnone
    | cons c name => rfl
  | some w =>
    rw [Option.map_some, Option.bind_some, Url.decode?_encode_userinfo (hpassword w rfl)]
    cases name <;> rfl

/-- User information that was read from a text without percent signs is taken off. -/
theorem anonymous_userinfoOf {user : Text} (huser : '%' ∉ user) (host : Text)
    (number : Option Nat) :
    (⟨Url.userinfoOf user, host, number⟩ : Authority).anonymous = ⟨[], host, number⟩ := by
  have hcolon : ∀ s, ∀ c ∈ Percent.encode Url.isUserinfoChar s, (c == ':') = false :=
    fun s c hc => beq_false_of_ne fun heq => Url.colon_not_mem_encode s (heq ▸ hc)
  unfold Url.userinfoOf
  split
  · next name hsplit =>
    rw [eq_of_splitFirst_none hsplit] at huser
    exact anonymous_of_split none (splitFirst_of_forall_not (hcolon name)) huser nofun
  · next name password hsplit =>
    have hname : '%' ∉ name := fun h =>
      huser (splitFirst_fst_subset _ _ (by rw [hsplit]; exact h))
    have hpassword : '%' ∉ password := fun h =>
      huser (splitFirst_snd_subset (congrArg Prod.snd hsplit) h)
    split
    · exact anonymous_of_split none (splitFirst_of_forall_not (hcolon name)) hname nofun
    · refine anonymous_of_split (some password) (splitFirst_append_cons (hcolon name) rfl _) hname ?_
      rintro w ⟨⟩
      exact hpassword

end Authority

/-! Messages -/

/-- User information is taken off before a call or behind it. -/
theorem Url.anonymous_forCall {u : Url} (hkind : u.kind = .web) (front apiPath : Text)
    (params : List (Text × Text)) :
    (u.forCall front apiPath params).anonymous = u.anonymous.forCall front apiPath params := by
  rw [kind] at hkind
  cases hfront : u.front with
  | authority a =>
    simp only [forCall, withPath, isOpaque, kind, hkind, anonymous, hfront, pathOf, reduceCtorEq,
      decide_false, Bool.false_and, Bool.false_eq_true, if_false]
  | _ => simp only [forCall, withPath, anonymous, hfront]

/-- Whatever is asked of a backend, the transport's message that it cannot be reached is the one
about the same backend without a name and a password, if its address holds no percent sign. -/
theorem Settings.unreachable_forCall {s : Settings} {backend : Url}
    (h : s.backendUrl = .ok backend) (hplain : '%' ∉ s.backendAddress) (front apiPath : Text)
    (params : List (Text × Text)) :
    ∃ a, backend.front = .authority a ∧
      unreachable (backend.forCall front apiPath params) =
        unreachable ({ backend with front := .authority { a with userinfo := [] } }.forCall front
          apiPath params) := by
  obtain ⟨a, ha, hin⟩ := authorityIn_of_backendUrl h
  obtain ⟨user, hsubset, huser⟩ := hin.userinfo
  obtain ⟨hkind, -⟩ := backendUrl_eq_ok h
  have hnone : '%' ∉ user := fun hmem => by
    rcases List.mem_append.mp (hsubset hmem) with hmem | hmem
    · exact absurd hmem (by decide)
    · exact hplain hmem
  have hshown : a.anonymous = { a with userinfo := [] } := by
    have hcleared := Authority.anonymous_userinfoOf hnone a.host a.number
    rwa [← huser] at hcleared
  have hbackend : backend.anonymous =
      { backend with front := .authority { a with userinfo := [] } } := by
    simp only [Url.anonymous, ha, hshown]
  refine ⟨a, ha, ?_⟩
  rw [← hbackend]
  have hagain : backend.anonymous.anonymous = backend.anonymous := by
    rw [hbackend]
    rfl
  have hkept : backend.anonymous.kind = .web := by
    rw [hbackend]
    exact hkind
  unfold unreachable
  rw [Url.anonymous_forCall hkind, Url.anonymous_forCall hkept, hagain]

end TenantScope
