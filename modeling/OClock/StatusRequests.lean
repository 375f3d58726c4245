import OClock.JsonDecoder
import OClock.WebServer

/-!
A request for the JSON page: the readings of its worker, and what a client decodes of the reply.
-/

namespace OClock.StatusRequests
open Text DictionaryStore JsonGrammar StatusReport StatusDocument StatusText
open WebHandlerInternal WebServer

/-- Of entries with distinct names, the one that is found is the one that is there. -/
theorem found_iff_mem {κ α : Type} [DecidableEq κ] {entries : List (κ × α)}
    (distinct : (entries.map Prod.fst).Nodup) (name : κ) (value : α) :
    (entries.find? fun entry => entry.1 = name).map Prod.snd = some value ↔
      (name, value) ∈ entries := by
  induction entries with
  | nil => simp
  | cons head rest ih =>
      obtain ⟨fresh, distinct⟩ := List.nodup_cons.mp distinct
      rw [List.find?_cons, List.mem_cons]
      by_cases hit : head.1 = name
      · have absent : (name, value) ∉ rest := fun there =>
          fresh (List.mem_map.mpr ⟨_, there, hit.symm⟩)
        subst hit
        simp [absent, Prod.ext_iff, eq_comm]
      · have other : (name, value) ≠ head := fun same => hit (congrArg Prod.fst same).symm
        simp [hit, other, ih distinct]

theorem memberOf_mem {members : List (Bytes × JValue)} {name : Bytes} {value : JValue}
    (inside : (name, value) ∈ members) (distinct : (members.map Prod.fst).Nodup) :
    memberOf name (.obj members) = some value := (found_iff_mem distinct name value).mpr inside

/-- What a client decodes of the page. -/
theorem page_decodes (snapshot : StatusSnapshot) :
    JsonDecoder.decode (Page.json.answer snapshot).replyBody = some (statusDocument snapshot) := by
  have denotes := status_text snapshot
  have clean : CommonUtils.cText (renderStatusJson snapshot) = renderStatusJson snapshot := by
    refine List.takeWhile_eq_self_iff.mpr fun c inside => ?_
    have other : c ≠ 0 := by
      rintro rfl
      exact text_clean denotes inside
    simpa using other
  rw [Page.answer, clean]
  exact JsonDecoder.decode_denoted denotes

/-- The stages of the request, by what its snapshot holds before each reading and at the end. -/
inductive Collecting (before : Reading → StatusSnapshot → Prop)
    (complete : StatusSnapshot → Prop) : Stage → Prop where
  | serving (request : RequestInfo) (empty : before .handlerHits default) :
      Collecting before complete (.serving request .statusJson)
  | gathering {reading : Reading} {snapshot : StatusSnapshot} (holds : before reading snapshot) :
      Collecting before complete (.gathering .json reading snapshot)
  | replying {snapshot : StatusSnapshot} (holds : complete snapshot) :
      Collecting before complete (.replying (Page.json.answer snapshot))

section

variable {before later : Reading → StatusSnapshot → Prop} {complete done : StatusSnapshot → Prop}
  {stage : Stage}

theorem Collecting.imp (collecting : Collecting before complete stage)
    (reading : ∀ reading snapshot, before reading snapshot → later reading snapshot)
    (ended : ∀ snapshot, complete snapshot → done snapshot) : Collecting later done stage := by
  cases collecting with
  | serving request empty => exact .serving request (reading _ _ empty)
  | gathering holds => exact .gathering (reading _ _ holds)
  | replying holds => exact .replying (ended _ holds)

/-- A step of the worker is its next reading. -/
theorem Collecting.proceed {outside : Outside} {server : Server} {label : Label} {next : Stage}
    (collecting : Collecting before complete stage)
    (proceeds : WebServer.proceed outside server stage = some (label, next))
    (start : before .handlerHits default → later .handlerHits default)
    (reads : ∀ reading snapshot, before reading snapshot →
      Collecting later done (gathered outside server .json snapshot reading).2) :
    Collecting later done next := by
  cases collecting with
  | serving request empty =>
      cases proceeds
      exact .gathering (start empty)
  | @gathering reading snapshot holds =>
      have same : gathered outside server .json snapshot reading = (label, next) :=
        Option.some.inj proceeds
      have read := reads reading snapshot holds
      rw [same] at read
      exact read
  | replying holds => cases proceeds

theorem Collecting.label {outside : Outside} {server : Server} {label : Label} {next : Stage}
    (collecting : Collecting before complete stage)
    (proceeds : WebServer.proceed outside server stage = some (label, next)) :
    label = .quiet ∨ ∃ key, label = .getNext key := by
  cases collecting with
  | serving request empty =>
      cases proceeds
      exact .inl rfl
  | @gathering reading snapshot holds =>
      have same : gathered outside server .json snapshot reading = (label, next) :=
        Option.some.inj proceeds
      rw [show label = (gathered outside server .json snapshot reading).1 by rw [same]]
      cases reading with
      | entries currKey => exact .inr ⟨currKey, rfl⟩
      | _ => exact .inl rfl
  | replying holds => cases proceeds

end

end OClock.StatusRequests
