import Mathlib.Data.List.Induction
import Passcode.Proofs.Casing
import Passcode.Settings.Client

/-!
Lists of channels. A list has each name of a text once, at the place where it comes first. A text
that goes on adds what is new in the rest, and a list that is written out reads as itself.
-/

set_option autoImplicit false

namespace Passcode.Settings.Client

/-! ### Names in order of first occurrence -/

def channelsOf (names : List String) : List String :=
  names.foldl addChannel []

theorem addChannel_of_present {channels : List String} {name : String}
    (present : name = "" ∨ name ∈ channels) : addChannel channels name = channels := by
  rw [addChannel, if_pos]
  simpa [String.isEmpty_iff] using present

theorem addChannel_of_absent {channels : List String} {name : String} (nonempty : name ≠ "")
    (absent : name ∉ channels) : addChannel channels name = channels ++ [name] := by
  rw [addChannel, if_neg]
  simp [String.isEmpty_iff, nonempty, absent]

theorem addChannel_cases (channels : List String) (name : String) :
    (addChannel channels name = channels ∧ (name = "" ∨ name ∈ channels)) ∨
    (addChannel channels name = channels ++ [name] ∧ name ≠ "" ∧ name ∉ channels) := by
  by_cases present : name = "" ∨ name ∈ channels
  · exact .inl ⟨addChannel_of_present present, present⟩
  · obtain ⟨nonempty, absent⟩ := not_or.mp present
    exact .inr ⟨addChannel_of_absent nonempty absent, nonempty, absent⟩

theorem channelsOf_concat (names : List String) (name : String) :
    channelsOf (names ++ [name]) = addChannel (channelsOf names) name := by
  simp only [channelsOf, List.foldl_append, List.foldl_cons, List.foldl_nil]

theorem mem_channelsOf {names : List String} {name : String} :
    name ∈ channelsOf names ↔ name ≠ "" ∧ name ∈ names := by
  induction names using List.reverseRecOn with
  | nil => simp [channelsOf]
  | append_singleton names last ih =>
    rw [channelsOf_concat, List.mem_append, List.mem_singleton]
    rcases addChannel_cases (channelsOf names) last with ⟨same, present⟩ | ⟨added, nonempty, -⟩
    · rw [same, ih]
      constructor
      · rintro ⟨nonempty, member⟩
        exact ⟨nonempty, .inl member⟩
      · rintro ⟨nonempty, member | rfl⟩
        · exact ⟨nonempty, member⟩
        · exact ih.mp (present.resolve_left nonempty)
    · rw [added, List.mem_append, List.mem_singleton, ih]
      constructor
      · rintro (⟨nonempty, member⟩ | rfl)
        · exact ⟨nonempty, .inl member⟩
        · exact ⟨nonempty, .inr rfl⟩
      · rintro ⟨nonempty, member | same⟩
        · exact .inl ⟨nonempty, member⟩
        · exact .inr same

theorem nodup_channelsOf (names : List String) : (channelsOf names).Nodup := by
  induction names using List.reverseRecOn with
  | nil => exact List.nodup_nil
  | append_singleton names last ih =>
    rw [channelsOf_concat]
    rcases addChannel_cases (channelsOf names) last with ⟨same, -⟩ | ⟨added, -, new⟩
    · rw [same]
      exact ih
    · rw [added, List.nodup_append]
      refine ⟨ih, List.pairwise_singleton _ last, ?_⟩
      rintro name member _ here rfl
      rw [List.mem_singleton.mp here] at member
      exact new member

theorem ordered_channelsOf (names : List String) :
    (channelsOf names).Pairwise fun a b => names.idxOf a < names.idxOf b := by
  induction names using List.reverseRecOn with
  | nil => exact List.Pairwise.nil
  | append_singleton names last ih =>
    have earlier {name : String} (member : name ∈ channelsOf names) :
        (names ++ [last]).idxOf name = names.idxOf name :=
      List.idxOf_append_of_mem (mem_channelsOf.mp member).2
    have kept : (channelsOf names).Pairwise fun a b =>
        (names ++ [last]).idxOf a < (names ++ [last]).idxOf b := by
      refine ih.imp_of_mem ?_
      intro a b first second before
      rwa [earlier first, earlier second]
    rw [channelsOf_concat]
    rcases addChannel_cases (channelsOf names) last with ⟨same, -⟩ | ⟨added, nonempty, new⟩
    · rw [same]
      exact kept
    · -- A name that is new was not among the earlier ones, so its first place is the last one.
      rw [added, List.pairwise_append]
      refine ⟨kept, List.pairwise_singleton _ last, ?_⟩
      intro a first b second
      have unseen : last ∉ names := fun member => new (mem_channelsOf.mpr ⟨nonempty, member⟩)
      have within := List.idxOf_lt_length_of_mem (mem_channelsOf.mp first).2
      rw [List.mem_singleton.mp second, earlier first, List.idxOf_append_of_notMem unseen]
      omega

theorem addChannel_append (channels rest : List String) (name : String) :
    addChannel (channels ++ rest.filter (· ∉ channels)) name =
      channels ++ (addChannel rest name).filter (· ∉ channels) := by
  rcases addChannel_cases rest name with ⟨same, present⟩ | ⟨added, nonempty, new⟩
  · have there : name = "" ∨ name ∈ channels ++ rest.filter (· ∉ channels) := by
      refine present.imp_right fun member => ?_
      by_cases listed : name ∈ channels
      · exact List.mem_append_left _ listed
      · exact List.mem_append_right _ (List.mem_filter.mpr ⟨member, by simpa⟩)
    rw [same]
    exact addChannel_of_present there
  · rw [added, List.filter_append]
    by_cases listed : name ∈ channels
    · rw [addChannel_of_present (.inr (List.mem_append_left _ listed))]
      simp [listed]
    · have absent : name ∉ channels ++ rest.filter (· ∉ channels) := by simp [listed, new]
      rw [addChannel_of_absent nonempty absent, List.append_assoc]
      simp [listed]

theorem foldl_addChannel (channels names : List String) :
    names.foldl addChannel channels =
      channels ++ (channelsOf names).filter (· ∉ channels) := by
  induction names using List.reverseRecOn with
  | nil => simp [channelsOf]
  | append_singleton names last ih =>
    rw [channelsOf_concat, List.foldl_append, List.foldl_cons, List.foldl_nil, ih,
      addChannel_append]

theorem channelsOf_append (names others : List String) :
    channelsOf (names ++ others) =
      channelsOf names ++ (channelsOf others).filter (· ∉ channelsOf names) := by
  rw [channelsOf, List.foldl_append]
  exact foldl_addChannel (channelsOf names) others

theorem channelsOf_of_nodup {names : List String} (distinct : names.Nodup)
    (named : "" ∉ names) : channelsOf names = names := by
  induction names using List.reverseRecOn with
  | nil => rfl
  | append_singleton names last ih =>
    obtain ⟨before, -, apart⟩ := List.nodup_append.mp distinct
    have nonempty : last ≠ "" := by
      rintro rfl
      exact named (List.mem_append_right names List.mem_cons_self)
    have new : last ∉ names := fun member => apart last member last List.mem_cons_self rfl
    rw [channelsOf_concat, ih before fun member => named (List.mem_append_left _ member)]
    exact addChannel_of_absent nonempty new

/-! ### Texts between commas -/

theorem splitChars_eq_splitOn (sep : Char) (cs : List Char) :
    Text.splitChars sep cs = cs.splitOn sep := by
  induction cs with
  | nil => rfl
  | cons c cs ih =>
    rw [Text.splitChars, List.splitOn_cons_eq_if_modifyHead, ih]
    simp only [beq_iff_eq]
    split
    · rfl
    · cases found : cs.splitOn sep with
      | nil => exact absurd found (List.splitOn_ne_nil sep cs)
      | cons first rest => rfl

theorem not_mem_of_mem_splitOn {sep : Char} {cs stretch : List Char}
    (member : stretch ∈ cs.splitOn sep) : sep ∉ stretch := by
  induction cs generalizing stretch with
  | nil =>
    rw [List.mem_singleton.mp member]
    exact List.not_mem_nil
  | cons c cs ih =>
    rw [List.splitOn_cons_eq_if_modifyHead] at member
    split at member
    · rcases List.mem_cons.mp member with rfl | later
      · exact List.not_mem_nil
      · exact ih later
    · next other =>
      cases found : cs.splitOn sep with
      | nil => exact absurd found (List.splitOn_ne_nil sep cs)
      | cons first rest =>
        rw [found] at member ih
        rcases List.mem_cons.mp member with rfl | later
        · have before := ih List.mem_cons_self
          simp only [beq_iff_eq] at other
          simp [before, Ne.symm other]
        · exact ih (List.mem_cons_of_mem first later)

def nameOf (stretch : List Char) : String :=
  Text.lower (Text.trim (String.ofList stretch))

theorem channelNames_eq_map (s : String) :
    channelNames s = (s.toList.splitOn ',').map nameOf := by
  rw [channelNames, splitChars_eq_splitOn]
  apply List.map_congr_left
  intro stretch _
  rw [nameOf, Text.trim, String.toList_ofList]

theorem channelNames_append (s t : String) :
    channelNames (s ++ "," ++ t) = channelNames s ++ channelNames t := by
  have split : (s ++ "," ++ t).toList = s.toList ++ ',' :: t.toList := by
    rw [String.toList_append, String.toList_append, List.append_assoc]
    rfl
  rw [channelNames_eq_map, split, List.splitOn_append_cons_self, List.map_append,
    ← channelNames_eq_map, ← channelNames_eq_map]

/-! ### Names in normal form -/

/-- A name that stays as it is and does not stand for several. -/
structure IsPlain (name : String) : Prop where
  whole : ',' ∉ name.toList
  normal : nameOf name.toList = name

theorem isPlain_nameOf {stretch : List Char} (whole : ',' ∉ stretch) :
    IsPlain (nameOf stretch) where
  whole := by
    intro comma
    rw [nameOf, Text.lower, String.toList_ofList, Text.trim, String.toList_ofList,
      String.toList_ofList] at comma
    exact whole (Text.mem_of_mem_trimChars (Text.comma_mem_of_mem_lowerFrom comma))
  normal := by
    rw [nameOf, String.ofList_toList, nameOf]
    exact Text.lower_trim_lower_trim (String.ofList stretch)

theorem isPlain_of_mem_channelNames {s name : String} (member : name ∈ channelNames s) :
    IsPlain name := by
  rw [channelNames_eq_map] at member
  obtain ⟨stretch, between, rfl⟩ := List.mem_map.mp member
  exact isPlain_nameOf (not_mem_of_mem_splitOn between)

theorem channelNames_intercalate {names : List String} (nonempty : names ≠ [])
    (plain : ∀ name ∈ names, IsPlain name) : channelNames (",".intercalate names) = names := by
  have whole : ∀ cs ∈ names.map String.toList, ',' ∉ cs := by
    intro cs member
    obtain ⟨name, listed, rfl⟩ := List.mem_map.mp member
    exact (plain name listed).whole
  have between : (",".intercalate names).toList.splitOn ',' = names.map String.toList := by
    rw [String.toList_intercalate]
    exact List.splitOn_intercalate ',' whole (by simpa using nonempty)
  rw [channelNames_eq_map, between, List.map_map]
  refine (List.map_congr_left ?_).trans (List.map_id names)
  intro name listed
  exact (plain name listed).normal

theorem parseChannels_intercalate {names : List String} (distinct : names.Nodup)
    (named : "" ∉ names) (plain : ∀ name ∈ names, IsPlain name) :
    parseChannels (",".intercalate names) = names := by
  by_cases empty : names = []
  · subst empty
    decide
  · have same := channelNames_intercalate empty plain
    rw [parseChannels, same]
    exact channelsOf_of_nodup distinct named

theorem parseChannels_eq_channelsOf (s : String) : parseChannels s = channelsOf (channelNames s) :=
  rfl

theorem parseChannels_stable (s : String) :
    parseChannels (",".intercalate (parseChannels s)) = parseChannels s := by
  apply parseChannels_intercalate
  · exact nodup_channelsOf (channelNames s)
  · intro empty
    exact (mem_channelsOf.mp empty).1 rfl
  · intro name member
    exact isPlain_of_mem_channelNames (mem_channelsOf.mp member).2

/-- The channels of a text are its names without the empty one, each once and in the order in which
they first occur; what follows a comma adds what is new; and written out they read as themselves. -/
theorem parseChannels_by_first_occurrence (text other : String) :
    let names := (text.toList.splitOn ',').map fun stretch =>
      Text.lower (Text.trim (String.ofList stretch))
    (parseChannels text).Nodup ∧
      (∀ name, name ∈ parseChannels text ↔ name ≠ "" ∧ name ∈ names) ∧
      (parseChannels text).Pairwise (fun a b => names.idxOf a < names.idxOf b) ∧
      parseChannels (text ++ "," ++ other) =
        parseChannels text ++ (parseChannels other).filter (· ∉ parseChannels text) ∧
      parseChannels (",".intercalate (parseChannels text)) = parseChannels text := by
  intro names
  have same : names = channelNames text := (channelNames_eq_map text).symm
  have appended : parseChannels (text ++ "," ++ other) =
      parseChannels text ++ (parseChannels other).filter (· ∉ parseChannels text) := by
    rw [parseChannels_eq_channelsOf, channelNames_append]
    exact channelsOf_append (channelNames text) (channelNames other)
  refine ⟨nodup_channelsOf (channelNames text), ?_, ?_, appended, parseChannels_stable text⟩
  · intro name
    rw [same]
    exact mem_channelsOf
  · rw [same]
    exact ordered_channelsOf (channelNames text)

/-- Names that differ only in case and blanks count as one. -/
example : parseChannels "sms, Zalo,SMS ,,zalo" = ["sms", "zalo"] := by
  decide +kernel

end Passcode.Settings.Client
