/- What URLs are read as, by the kinds of their schemes. -/
import TenantScope.Net.UrlReader
import TenantScope.Proofs.Query.Grammar
import TenantScope.Proofs.Text.Digits
import TenantScope.Proofs.Text.Split

namespace TenantScope

open Query

/-! Hosts -/

theorem Ipv4.print_ne_nil (a : Ipv4) : a.print ≠ [] := by
  rw [print, octets, List.map_cons, List.map_cons, Text.join_cons_cons]
  exact List.append_ne_nil_of_left_ne_nil (Text.ofNat_ne_nil _) _

namespace Url

theorem bracketed_ne_nil {s host : Text} (h : bracketed s = .ok host) : host ≠ [] := by
  unfold bracketed at h
  split at h
  · cases h
    exact List.cons_ne_nil _ _
  · cases h

/-- Where the scheme is known, a host is never empty. -/
theorem domainHost_ne_nil {s host : Text} (h : domainHost s = .ok host) : host ≠ [] := by
  unfold domainHost at h
  split at h
  · exact bracketed_ne_nil h
  · split at h
    · cases h
    · cases h
    · next domain hne _ =>
      split at h
      · split at h
        · next a _ =>
          cases h
          exact a.print_ne_nil
        · cases h
      · cases h
        exact hne

/-! Authorities -/

theorem splitUserinfo_subset {s user : Text} (h : (splitUserinfo s).1 = some user) : user ⊆ s := by
  unfold splitUserinfo at h
  split at h
  · next host _ hsplit =>
    cases h
    have hsubset := splitFirst_snd_subset (congrArg Prod.snd hsplit)
    exact fun c hc => List.mem_reverse.mp (hsubset (List.mem_reverse.mp hc))
  · cases h

/-- The authority of a text has a host, and its user information is that of a part of the text. -/
structure AuthorityIn (s : Text) (a : Authority) : Prop where
  host : a.host ≠ []
  userinfo : ∃ user, user ⊆ s ∧ a.userinfo = userinfoOf user

theorem AuthorityIn.mono {s t : Text} {a : Authority} (h : AuthorityIn s a) (hsubset : s ⊆ t) :
    AuthorityIn t a := by
  obtain ⟨user, huser, heq⟩ := h.userinfo
  exact ⟨h.host, user, List.Subset.trans huser hsubset, heq⟩

theorem authorityOf_eq_ok {scheme s rest : Text} {followed : Bool} {a : Authority}
    (hkind : kindOf scheme = .web) (h : authorityOf scheme followed s = .ok (a, rest)) :
    AuthorityIn s a := by
  have hknown : kindOf scheme ≠ .other := by rw [hkind]; decide
  have huser : (splitUserinfo s).1.getD [] ⊆ s := by
    cases hsplit : (splitUserinfo s).1 with
    | none => exact List.nil_subset s
    | some user => exact splitUserinfo_subset hsplit
  unfold authorityOf at h
  dsimp only at h
  rw [if_neg hknown] at h
  split at h
  · cases h
  · obtain ⟨host, hhost, h⟩ := bind_eq_ok h
    split at h
    all_goals
      obtain ⟨⟨number, rest'⟩, -, h⟩ := bind_eq_ok h
      cases h
      exact ⟨domainHost_ne_nil hhost, _, huser, rfl⟩

theorem splitTail_subset (kind : SchemeKind) (s : Text) : (splitTail kind s).1 ⊆ s :=
  List.Subset.trans (splitFirst_fst_subset _ _) (splitFirst_fst_subset _ s)

theorem ofHostText_eq_ok {scheme s : Text} {url : Url} (hkind : kindOf scheme = .web)
    (h : ofHostText scheme s = .ok url) : ∃ a, url.front = .authority a ∧ AuthorityIn s a := by
  unfold ofHostText at h
  dsimp only at h
  obtain ⟨⟨a, _⟩, ha, h⟩ := bind_eq_ok h
  cases h
  refine ⟨a, rfl, (authorityOf_eq_ok hkind ha).mono fun c hc => ?_⟩
  have hdropped := (List.takeWhile_sublist _).subset hc
  exact splitTail_subset .web s ((List.dropWhile_sublist _).subset hdropped)

theorem ofFileText_eq_ok {s : Text} {url : Url} (h : ofFileText s = .ok url) :
    url.scheme = fileScheme := by
  unfold ofFileText at h
  dsimp only at h
  split at h
  · split at h
    · obtain ⟨⟨host, path⟩, -, h⟩ := bind_eq_ok h
      cases h
      rfl
    · cases h
      rfl
  · cases h
    rfl

theorem ofOtherText_eq_ok {scheme s : Text} {url : Url} (h : ofOtherText scheme s = .ok url) :
    url.scheme = scheme := by
  unfold ofOtherText at h
  dsimp only at h
  split at h
  · obtain ⟨⟨a, more⟩, -, h⟩ := bind_eq_ok h
    cases h
    rfl
  · cases h
    rfl
  · cases h
    rfl

/-! Whole URLs -/

theorem scheme?_subset {s scheme rest : Text} (h : scheme? s = some (scheme, rest)) :
    rest ⊆ s := by
  unfold scheme? at h
  split at h
  · next hsplit =>
    split at h
    · cases h
      exact splitFirst_snd_subset (congrArg Prod.snd hsplit)
    · cases h
  · cases h

/-- A URL with a scheme of hosts has an authority with a host, all of it from its text. -/
theorem authorityIn_of_ofText {s : Text} {url : Url} (h : ofText s = .ok url)
    (hkind : url.kind = .web) : ∃ a, url.front = .authority a ∧ AuthorityIn s a := by
  unfold ofText at h
  dsimp only at h
  split at h
  · cases h
  · next scheme rest hscheme =>
    split at h
    · next hweb =>
      obtain ⟨a, ha, hin⟩ := ofHostText_eq_ok hweb h
      refine ⟨a, ha, hin.mono fun c hc => ?_⟩
      have hfiltered := List.mem_of_mem_filter (scheme?_subset hscheme hc)
      exact Text.trimBy_subset _ s hfiltered
    · rw [kind, ofFileText_eq_ok h] at hkind
      cases hkind
    · next hother =>
      rw [kind, ofOtherText_eq_ok h, hother] at hkind
      cases hkind

theorem isOpaque_of_ofText {s : Text} {url : Url} (h : ofText s = .ok url)
    (hkind : url.kind = .web) : url.isOpaque = false := by
  obtain ⟨a, ha, -⟩ := authorityIn_of_ofText h hkind
  simp only [isOpaque, ha, reduceCtorEq, decide_false, Bool.false_and]

end Url
end TenantScope
