import Wakeup.Trigger

/-! Names derived from different tokens are different. -/
namespace Wakeup.TriggerIds

theorem mk_append_inj {p : Purpose} {stem : String} {t u : Token} :
    (⟨stem ++ t.text⟩ : Tagged p) = ⟨stem ++ u.text⟩ ↔ t = u := by
  constructor
  · intro h
    have hn : stem ++ t.text = stem ++ u.text := congrArg Tagged.text h
    have ht : t.text = u.text := (String.append_right_inj _).mp hn
    cases t
    cases u
    exact congrArg Tagged.mk ht
  · rintro rfl
    rfl

theorem ruleName_ofToken_inj {t u : Token} :
    (ofToken t).ruleName = (ofToken u).ruleName ↔ t = u := mk_append_inj

theorem targetId_ofToken_inj {t u : Token} :
    (ofToken t).targetId = (ofToken u).targetId ↔ t = u := mk_append_inj

end Wakeup.TriggerIds
