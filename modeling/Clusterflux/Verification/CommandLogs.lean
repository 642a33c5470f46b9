import Clusterflux.Node.GuestRun

/-!
# The logs of a task's commands

What a node collects of any commands is the end of their whole output.
-/

namespace Clusterflux.CommandLogs

theorem len_le_append (text addition : List Char) : len text ≤ len (text ++ addition) := by
  simp [len]

theorem suffixWithin_of_le {limit : ℕ} {text : List Char} (hfits : len text ≤ limit) :
    suffixWithin limit text = text := by
  cases text with
  | nil => rfl
  | cons => exact if_pos hfits

theorem suffixWithin_append (limit : ℕ) (text addition : List Char) :
    suffixWithin limit (suffixWithin limit text ++ addition) =
      suffixWithin limit (text ++ addition) := by
  induction text with
  | nil => rfl
  | cons char rest ih =>
    by_cases hfits : len (char :: rest) ≤ limit
    · rw [suffixWithin_of_le hfits]
    · have hlong := fun hwhole => hfits ((len_le_append _ addition).trans hwhole)
      rw [suffixWithin, if_neg hfits, ih]
      exact (if_neg hlong).symm

theorem appendBoundedLogTail_eq (current addition : List Char) (maximum : ℕ) :
    appendBoundedLogTail current addition maximum =
      (suffixWithin maximum (current ++ addition),
        decide (maximum < len (current ++ addition))) := by
  unfold appendBoundedLogTail
  dsimp only
  split
  case isTrue hfits => rw [suffixWithin_of_le hfits, decide_eq_false hfits.not_gt]
  case isFalse hlong =>
    have hlost := (utf8Size_suffixWithin maximum (current ++ addition)).trans_lt (not_le.mp hlong)
    rw [decide_eq_true hlost, decide_eq_true (not_le.mp hlong)]

/-- The text of the outputs that are not truncated. -/
def recorded (outputs : List LogStream) : List Char :=
  (outputs.filter (!·.truncated)).flatMap (·.text)

/-- The longest end of what was recorded, and whether that or an output lost something. -/
def LogStream.ending (outputs : List LogStream) : LogStream :=
  ⟨suffixWithin defaultCommandLogLimitBytes (recorded outputs), outputs.any (·.truncated) ||
    decide (defaultCommandLogLimitBytes < len (recorded outputs))⟩

theorem LogStream.record_ending (outputs : List LogStream) (output : LogStream) :
    (ending outputs).record output = ending (outputs ++ [output]) := by
  unfold record
  split
  case isTrue hflag => simp [ending, recorded, hflag]
  case isFalse hflag =>
    have hgrows : recorded (outputs ++ [output]) = recorded outputs ++ output.text := by
      simp [recorded, hflag]
    rw [appendBoundedLogTail_eq]
    simp only [ending, hgrows, suffixWithin_append]
    by_cases hfits : len (recorded outputs) ≤ defaultCommandLogLimitBytes
    · simp [suffixWithin_of_le hfits, hfits.not_gt, hflag]
    · have hlong := (not_le.mp hfits).trans_le (len_le_append _ output.text)
      simp [hflag, not_le.mp hfits, hlong]

/-- Recording the outputs of any commands one by one gives the end of each whole stream. -/
theorem recorded_logs_are_endings (outputs : List CommandOutput) :
    outputs.foldl NativeCommandLogState.record ⟨⟨[], false⟩, ⟨[], false⟩, false⟩ =
      ⟨.ending (outputs.map (·.stdout)), .ending (outputs.map (·.stderr)),
        outputs.any (·.logBackpressured)⟩ := by
  induction outputs using List.reverseRecOn with
  | nil => rfl
  | append_singleton outputs output ih =>
    rw [List.foldl_concat, ih, NativeCommandLogState.record, LogStream.record_ending,
      LogStream.record_ending]
    simp

end Clusterflux.CommandLogs
