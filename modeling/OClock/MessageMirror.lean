import Mathlib.Data.List.Infix

/-!
A producer writes words into a queue of messages, a consumer reads them out again. Messages
that say nothing pass through. What was published is behind what was produced by what is
still in the queue.
-/

namespace OClock.MessageMirror

universe u v

variable {Message : Type u} {Word : Type v}

def Mirrors (read : Message → Option Word) (published : List Word) (pending : List Message)
    (produced : List Word) : Prop :=
  published ++ pending.filterMap read = produced

variable {read : Message → Option Word} {published produced : List Word}
  {pending rest : List Message} {msg : Message}

theorem Mirrors.put (mirrors : Mirrors read published pending produced) (msgs : List Message) :
    Mirrors read published (pending ++ msgs) (produced ++ msgs.filterMap read) := by
  unfold Mirrors at mirrors ⊢
  rw [List.filterMap_append, ← List.append_assoc, mirrors]

theorem Mirrors.take (mirrors : Mirrors read published (msg :: rest) produced) :
    Mirrors read (published ++ (read msg).toList) rest produced := by
  unfold Mirrors at mirrors ⊢
  rw [← mirrors, List.filterMap_cons, List.append_assoc]
  cases read msg <;> rfl

theorem Mirrors.behind (mirrors : Mirrors read published pending produced) :
    published <+: produced := mirrors ▸ List.prefix_append _ _

theorem Mirrors.caught_up (mirrors : Mirrors read published pending produced)
    (nothing : ∀ msg ∈ pending, read msg = none) : published = produced := by
  have silent : pending.filterMap read = [] := List.filterMap_eq_nil_iff.mpr nothing
  rw [Mirrors, silent, List.append_nil] at mirrors
  exact mirrors

end OClock.MessageMirror
