/-! Texts as bytes.

    `ofBytes?` reads bytes as UTF-8 and `toBytes` writes them; bytes are accepted exactly when
    they are what some text writes (`ofBytes?_eq_some_iff`), so each text has one spelling. -/

namespace CgroupLimits.Text

/-- The UTF-8 bytes of a text. -/
def toBytes (s : String) : List UInt8 := s.toByteArray.data.toList

/-- The text that the bytes spell in UTF-8. -/
def ofBytes? (bytes : List UInt8) : Option String := String.fromUTF8? ⟨bytes.toArray⟩

theorem ofBytes?_eq_some_iff {bytes : List UInt8} {s : String} :
    ofBytes? bytes = some s ↔ bytes = toBytes s := by
  unfold ofBytes? String.fromUTF8? toBytes
  constructor
  · intro h
    split at h
    · obtain rfl := Option.some.inj h
      simp [String.fromUTF8]
    · simp at h
  · rintro rfl
    simp [String.fromUTF8, s.isValidUTF8]

@[simp] theorem ofBytes?_toBytes (s : String) : ofBytes? (toBytes s) = some s :=
  ofBytes?_eq_some_iff.2 rfl

@[simp] theorem toBytes_empty : toBytes "" = [] := by simp [toBytes]

@[simp] theorem toBytes_append (s t : String) : toBytes (s ++ t) = toBytes s ++ toBytes t := by
  simp [toBytes, String.toByteArray_append, ByteArray.data_append]

end CgroupLimits.Text
