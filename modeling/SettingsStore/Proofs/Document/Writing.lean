import SettingsStore.Document.Field
import SettingsStore.Proofs.Json.Members
import SettingsStore.Proofs.Json.Path

/-!
# Fields that are written

What was written last stands at its path, and nothing is left of what was written there before. The
order in which two diverging paths are written does not matter: the members with which they diverge
come to stand in the same places, and up to there both orders make the same objects, whether these
were missing or other values stood in their places. All this holds in every value, of whatever shape
it is and whatever stands on the way.
-/

namespace SettingsStore

namespace Json

theorem put_put_self (path : List String) (j old value : Json) :
    put path (put path j old) value = put path j value := by
  induction path generalizing j with
  | nil => rfl
  | cons k ks ih =>
      rw [put, put, put, members_obj, Members.find?_insert_self, Option.getD_some, ih,
        Members.insert_insert_self]

theorem put_comm {p q : List String} (hpq : ¬p <+: q) (hqp : ¬q <+: p) (j value other : Json) :
    put p (put q j other) value = put q (put p j value) other := by
  induction p generalizing q j with
  | nil => exact absurd List.nil_prefix hpq
  | cons k ks ih =>
      cases q with
      | nil => exact absurd List.nil_prefix hqp
      | cons l ls =>
          rw [put, put, put, put, members_obj, members_obj]
          by_cases h : l = k
          · -- both write into one member, where the paths go on diverging
            subst h
            rw [List.cons_prefix_cons, not_and] at hpq hqp
            rw [Members.find?_insert_self, Members.find?_insert_self, Option.getD_some,
              Option.getD_some, ih (hpq rfl) (hqp rfl), Members.insert_insert_self,
              Members.insert_insert_self]
          · rw [Members.find?_insert_of_ne (Ne.symm h), Members.find?_insert_of_ne h,
              Members.insert_comm (Ne.symm h)]

end Json

namespace Field

/-- A field that is written has its last value. Writing it changes no field whose path diverges from
its own, and two such fields may be written in either order. -/
theorem write_lawful (f g : Field) (value other doc : Json) :
    f.find? (f.write value doc) = some value ∧
    f.write value (f.write other doc) = f.write value doc ∧
    (¬f.segments <+: g.segments → ¬g.segments <+: f.segments →
      g.find? (f.write value doc) = g.find? doc ∧
      f.write value (g.write other doc) = g.write other (f.write value doc)) := by
  refine ⟨Json.get?_put_self .., Json.put_put_self .., fun hfg hgf => ⟨?_, ?_⟩⟩
  · exact Json.get?_put_of_not_prefix hfg hgf doc value
  · exact Json.put_comm hfg hgf doc value other

/-- A text gives way to the object that the longer path needs, and the port beside it stays. -/
theorem write_lawful_through_text :
    let name : Field := ⟨"mail.server.name.short", "", .str, false⟩
    let port : Field := ⟨"mail.server.port", "", .int, false⟩
    let doc : Json := .obj [("mail", .obj [("server", .obj [("name", .str "local"),
      ("port", .num (.int 25))])])]
    let named : Json := name.write (.str "lo") doc
    ¬name.segments <+: port.segments ∧ ¬port.segments <+: name.segments ∧
      name.find? named = some (.str "lo") ∧ port.find? named = some (.num (.int 25)) ∧
      name.write (.str "lo") (port.write .null doc) = port.write .null named ∧
      named = .obj [("mail", .obj [("server", .obj [("name", .obj [("short", .str "lo")]),
        ("port", .num (.int 25))])])] := by
  intro name port doc named
  have hname : name.segments = ["mail", "server", "name", "short"] := by decide +kernel
  have hport : port.segments = ["mail", "server", "port"] := by decide +kernel
  have hnp : ¬name.segments <+: port.segments := by
    rw [hname, hport]
    decide
  have hpn : ¬port.segments <+: name.segments := by
    rw [hname, hport]
    decide
  obtain ⟨hfound, _, hapart⟩ := write_lawful name port (.str "lo") .null doc
  obtain ⟨hkept, hcomm⟩ := hapart hnp hpn
  refine ⟨hnp, hpn, hfound, hkept.trans ?_, hcomm, ?_⟩
  · rw [find?, hport]
    rfl
  · change name.write (.str "lo") doc = _
    rw [write, hname]
    rfl

end Field

end SettingsStore
