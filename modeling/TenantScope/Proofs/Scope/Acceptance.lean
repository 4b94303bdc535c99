/- Which queries a tenant without matchers of its own may ask. -/
import TenantScope.Proofs.Scope.RoundTrip
import TenantScope.Settings.Basic

namespace TenantScope

open Query

theorem Settings.labelName?_of_validate {s : Settings} (h : s.validate = .ok ()) :
    labelName? s.tenantLabel = some (s.tenantLabel, []) := by
  have hlabel : Settings.isLabelName s.tenantLabel = true := by
    obtain ⟨_, -, h⟩ := bind_eq_ok h
    obtain ⟨_, -, h⟩ := bind_eq_ok h
    dsimp only at h
    split at h
    · cases h
    · split at h
      · cases h
      · next hlabel => rwa [Bool.not_eq_true', Bool.not_eq_false] at hlabel
  unfold Settings.isLabelName at hlabel
  split at hlabel
  · next l heq =>
    obtain ⟨hsplit, hself, -⟩ := word?_eq_some heq
    rw [List.append_nil] at hsplit
    rw [hsplit]
    exact hself
  · cases hlabel

/-- Settings with addresses of one machine and the usual label. -/
def Settings.oneMachine : Settings where
  verbose := false
  backendAddress := "http://[::1]".toList
  backendPath := []
  listenAddress := "127.0.0.1:80".toList
  tenantLabel := "tenant".toList
  connectTimeout := 1
  policy := .reject

theorem Settings.validate_of_isOk {s : Settings} (h : s.validate.isOk = true) :
    s.validate = .ok () := by
  cases hs : s.validate with
  | error error => rw [hs] at h; cases h
  | ok u => rfl

theorem Settings.oneMachine_validate : Settings.oneMachine.validate = .ok () :=
  validate_of_isOk (by decide +kernel)

namespace Filter

theorem ofTenant_of_not_isMatcherChar {tenant : Text} (h : tenant.any isMatcherChar = false)
    (label : Text) :
    ofTenant tenant label = .ok ⟨[⟨label, .equal, tenant⟩], List.cons_ne_nil _ _⟩ := by
  rw [ofTenant, h]
  rfl

/-- A query is accepted when it is scoped to a text that is read as a tree with as many
selectors. -/
def Accepts (f : Filter) (query : Text) (e : Expr) : Prop :=
  ∃ text d, f.scopeQuery .reject query = .ok text ∧ Query.read text = .ok d ∧
    d.selectors.length = e.selectors.length

/-- Under the filter of a tenant, a query with tame names is scoped to a text of the injected tree
exactly when all names are read bare and no modifier clashes; without a clash, it is accepted at all
exactly when all names are read bare. -/
theorem accepts_ofTenant_iff {s : Settings} (hs : s.validate = .ok ())
    (hlabel : s.tenantLabel ≠ metricLabel) {tenant : Text}
    (htenant : tenant.any isMatcherChar = false) {query : Text} {e : Expr}
    (hread : Query.read query = .ok e) (htame : e.Everywhere Expr.Tame) :
    ∃ f, ofTenant tenant s.tenantLabel = .ok f ∧
      ((∃ text, f.scopeQuery .reject query = .ok text ∧
          Query.read text = .ok ((f.inject 0 e).tree.replace rereading)) ↔
        e.Everywhere Expr.Bare ∧ e.Everywhere Expr.Clear) ∧
      (e.Everywhere Expr.Clear → (f.Accepts query e ↔ e.Everywhere Expr.Bare)) := by
  refine ⟨_, ofTenant_of_not_isMatcherChar htenant s.tenantLabel, ?_⟩
  generalize hf : (⟨[⟨s.tenantLabel, .equal, tenant⟩], List.cons_ne_nil _ _⟩ : Filter) = f
  have hplain : f.Plain := by
    subst hf
    intro m hm
    cases List.mem_singleton.mp hm
    exact ⟨Settings.labelName?_of_validate hs, hlabel⟩
  have hconservative := narrowing_conservative hplain
  have hback := read_print_narrowed_iff hplain hread htame
  have htext : ∀ text, f.scopeQuery .reject query = .ok text →
      text = (e.replace f.narrowing).print := by
    intro text htext
    obtain ⟨e', he', heq, -⟩ := scopeQuery_reject_eq_ok_iff.mp htext
    cases hread.symm.trans he'
    exact heq
  rw [f.inject_tree]
  refine ⟨⟨?_, ?_⟩, fun hclear => ⟨?_, ?_⟩⟩
  · rintro ⟨text, hscope, hd⟩
    rw [htext text hscope] at hd
    exact hback.mp hd
  · exact fun hlegible =>
      ⟨_, scopeQuery_of_read_print hread (hback.mpr hlegible), hback.mpr hlegible⟩
  · rintro ⟨text, d, hscope, hd, -⟩
    rw [htext text hscope] at hd
    have hbare := (exists_read_print_iff (hconservative.at_replace (read_at hread))
      ((Expr.everywhere_replace f.worded_narrowed e).mpr htame)
      ((Expr.everywhere_replace hconservative.clear_replace e).mpr hclear)).mp ⟨d, hd⟩
    exact (Expr.everywhere_replace hconservative.bare_replace e).mp hbare
  · intro hbare
    have hd := hback.mpr ⟨hbare, hclear⟩
    refine ⟨_, _, scopeQuery_of_read_print hread hd, hd, ?_⟩
    rw [Expr.selectors_replace, Expr.selectors_replace, List.length_map, List.length_map]

/-- A ratio of a sum of rates and a metric, matched on one label with an empty group list. -/
theorem accepts_ofTenant_ratio :
    let query := "sum(rate(a[5m])) / on(x) group_left() b".toList
    let e := Expr.binary .div (some ⟨false, some ⟨.on, ["x".toList], some ⟨.left, []⟩⟩⟩)
      (.aggregation .sum none none
        (.call "rate".toList [.matrix ⟨some "a".toList, [], .empty⟩ 300000]))
      (.vector ⟨some "b".toList, [], .empty⟩)
    (Settings.oneMachine.validate = .ok () ∧ Query.read query = .ok e ∧
        e.Everywhere Expr.Bare ∧ e.Everywhere Expr.Clear) ∧
      ∃ f, ofTenant "t1".toList "tenant".toList = .ok f ∧ f.Accepts query e ∧
        ∃ text, f.scopeQuery .reject query = .ok text ∧
          Query.read text = .ok ((f.inject 0 e).tree.replace rereading) := by
  intro query e
  have hread : Query.read query = .ok e := rfl
  have hbare : e.Everywhere Expr.Bare := by decide +kernel
  have hclear : e.Everywhere Expr.Clear := by decide +kernel
  have htenant : "t1".toList.any isMatcherChar = false := by decide
  obtain ⟨f, hf, hinjected, haccepted⟩ := accepts_ofTenant_iff Settings.oneMachine_validate
    (by decide) htenant hread (hbare.mono fun _ hd => hd.tame)
  exact ⟨⟨Settings.oneMachine_validate, hread, hbare, hclear⟩, f, hf,
    (haccepted hclear).mpr hbare, hinjected.mpr ⟨hbare, hclear⟩⟩

/-- A metric whose name must be quoted is printed without quotes, and the query is refused. -/
theorem not_accepts_ofTenant_quoted :
    let e := Expr.vector ⟨some "a.b".toList, [], .empty⟩
    (Settings.oneMachine.validate = .ok () ∧ Query.read "\x7b'a.b'\x7d".toList = .ok e) ∧
      ∃ f, ofTenant "t1".toList "tenant".toList = .ok f ∧
        (∀ text, f.scopeQuery .reject "\x7b'a.b'\x7d".toList ≠ .ok text) ∧
        ¬f.Accepts "\x7b'a.b'\x7d".toList e := by
  intro e
  have hread : Query.read "\x7b'a.b'\x7d".toList = .ok e := rfl
  have hrefused : ∀ text, oneTenant.scopeQuery .reject "\x7b'a.b'\x7d".toList ≠ .ok text := by
    intro text htext
    obtain ⟨d, hd, rfl, hcheck⟩ := scopeQuery_reject_eq_ok_iff.mp htext
    cases hread.symm.trans hd
    obtain ⟨x, hx, -⟩ := checkIsolated_eq_ok_iff.mp hcheck
    have hrest : Query.read (e.replace oneTenant.narrowing).print =
        .error ⟨".b\x7btenant=\"t1\"\x7d".toList, .ending⟩ := rfl
    rw [hrest] at hx
    cases hx
  refine ⟨⟨Settings.oneMachine_validate, hread⟩, oneTenant, rfl, hrefused, ?_⟩
  rintro ⟨text, d, htext, -, -⟩
  exact hrefused text htext

end Filter
end TenantScope
