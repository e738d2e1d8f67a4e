/-
Command lines that are cut at spaces.

A text that is cut at its spaces falls into words without any. No option that is read from such words has a value with a
space, whichever way the option is written.

- `wordsOf_append`, `wordsOf_word`: the words of a text that was put together with spaces.
- `letters_spaceless`, `longWord_spaceless`, `scan_spaceless`: one word, and a whole scope, give values without spaces.
- `ofArguments_spaceless`: so does a command line.
-/
import CheckReport.CommandLine.Invocation
import CheckReport.Proofs.Text.Parts

namespace CheckReport.CommandLine

/-! ## Words -/

/-- the words of a text that is cut at its spaces -/
def wordsOf (s : String) : List String := ((s.toList.splitOn ' ').filter (· ≠ [])).map String.ofList

theorem wordsOf_append (s t : String) : wordsOf (s ++ " " ++ t) = wordsOf s ++ wordsOf t := by
  have whole : (s ++ " " ++ t).toList = s.toList ++ ' ' :: t.toList := by
    rw [String.toList_append, String.toList_append, List.append_assoc]
    rfl
  rw [wordsOf, whole, List.splitOn_append_cons_self, List.filter_append, List.map_append]
  rfl

theorem wordsOf_word {s : String} (spaceless : ' ' ∉ s.toList) (some_left : s ≠ "") : wordsOf s = [s] := by
  have left : s.toList ≠ [] := mt String.toList_eq_nil_iff.1 some_left
  rw [wordsOf, List.splitOn_eq_singleton spaceless, List.filter_singleton, decide_eq_true left, cond_true,
    List.map_singleton, String.ofList_toList]

theorem spaceless_of_mem_wordsOf {s word : String} (h : word ∈ wordsOf s) : ' ' ∉ word.toList := by
  obtain ⟨piece, mem, rfl⟩ := List.mem_map.1 h
  rw [String.toList_ofList]
  exact Text.not_mem_of_mem_splitOn (List.mem_filter.1 mem).1

/-! ## Values -/

/-- the text that an option has as its value -/
def Given.text? : Given → Option String
  | .status token => some token
  | .line text => some text
  | .remoteHost name => some name
  | .handle raw => some raw
  | _ => none

/-- no option has a text with a space -/
def Options.Spaceless (options : Options) : Prop :=
  ∀ option ∈ options, ∀ text, option.2.text? = some text → ' ' ∉ text.toList

theorem text_of_read {name : OptionName} {value text : String} {given : Given} (read : name.read? value = some given)
    (h : given.text? = some text) : text = value := by
  cases name with
  | status | line | remoteHost | handle =>
    cases read
    cases h
    rfl
  | config | ttl | dir | maxAgeMins | path =>
    obtain ⟨_, -, rfl⟩ := Option.map_eq_some_iff.1 read
    cases h
  | verbose | stdin | json =>
    cases read
    cases h
  | help | version => cases read

variable {scope : Scope} {options options' : Options} {waiting : Option OptionName}

theorem add_spaceless {name : OptionName} {value : String} (earlier : options.Spaceless) (hv : ' ' ∉ value.toList)
    (h : options.add scope name value = .ok options') : options'.Spaceless := by
  unfold Options.add at h
  split_ifs at h
  split at h
  · rename_i given read
    cases h
    intro option mem text htext
    rcases List.mem_append.1 mem with mem | mem
    · exact earlier option mem text htext
    · rw [List.mem_singleton.1 mem] at htext
      rw [text_of_read read htext]
      exact hv
  · cases h

/-- an option that was added with its value, so that no value is waited for -/
theorem added_spaceless {name : OptionName} {value : List Char} (earlier : options.Spaceless) (hv : ' ' ∉ value)
    (h : (options.add scope name (String.ofList value)).map (fun options => (options, none)) =
      .ok (options', waiting)) : options'.Spaceless := by
  cases added : options.add scope name (String.ofList value) with
  | error stop =>
    rw [added] at h
    cases h
  | ok later =>
    rw [added] at h
    cases h
    exact add_spaceless earlier (by rwa [String.toList_ofList]) added

theorem letters_spaceless {cs : List Char} (earlier : options.Spaceless) (hcs : ' ' ∉ cs)
    (h : letters scope options cs = .ok (options', waiting)) : options'.Spaceless := by
  induction cs generalizing options with
  | nil =>
    cases h
    exact earlier
  | cons c cs ih =>
    have later : ' ' ∉ cs := fun mem => hcs (List.mem_cons_of_mem c mem)
    unfold letters at h
    split at h
    · cases h
    rename_i name _
    split_ifs at h with switch
    · split at h
      · rename_i added
        exact ih (add_spaceless earlier List.not_mem_nil added) later h
      · cases h
    · split at h
      · exact added_spaceless earlier (fun mem => later (List.mem_cons_of_mem '=' mem)) h
      · cases h
        exact earlier
      · exact added_spaceless earlier later h

theorem longWord_spaceless {word : List Char} (earlier : options.Spaceless) (hw : ' ' ∉ word)
    (h : longWord scope options word = .ok (options', waiting)) : options'.Spaceless := by
  unfold longWord at h
  split at h
  · cases h
  · split_ifs at h
    · cases h
      exact earlier
    · exact added_spaceless earlier (show ' ' ∉ [] from List.not_mem_nil) h
  · rename_i behind
    split_ifs at h
    refine added_spaceless earlier (fun mem => hw ?_) h
    have kept := (List.dropWhile_sublist (l := word) (· ≠ '=')).subset
    rw [behind] at kept
    exact kept (List.mem_cons_of_mem _ mem)

theorem optionWord_spaceless {word : List Char} (earlier : options.Spaceless) (hw : ' ' ∉ word)
    (h : optionWord scope options word = .ok (options', waiting)) : options'.Spaceless := by
  unfold optionWord at h
  split at h
  · exact longWord_spaceless earlier (fun mem => hw (by simp [mem])) h
  · exact letters_spaceless earlier (fun mem => hw (List.mem_of_mem_tail mem)) h

theorem scan_spaceless {words : List String} {scanned : Scanned} (earlier : options.Spaceless)
    (hw : ∀ word ∈ words, ' ' ∉ word.toList) (h : scan scope options waiting words = .ok scanned) :
    scanned.options.Spaceless ∧ ∀ command rest, scanned.command = some (command, rest) → rest ⊆ words := by
  induction words generalizing options waiting with
  | nil =>
    unfold scan at h
    split_ifs at h
    cases h
    exact ⟨earlier, fun _ _ nothing => by cases nothing⟩
  | cons word words ih =>
    have first : ' ' ∉ word.toList := hw word List.mem_cons_self
    have later : ∀ word ∈ words, ' ' ∉ word.toList := fun other mem => hw other (List.mem_cons_of_mem word mem)
    have go : ∀ {options : Options} {waiting : Option OptionName}, options.Spaceless →
        scan scope options waiting words = .ok scanned → scanned.options.Spaceless ∧
          ∀ command rest, scanned.command = some (command, rest) → rest ⊆ word :: words := by
      intro options waiting spaceless h
      obtain ⟨all, inside⟩ := ih spaceless later h
      exact ⟨all, fun command rest hr => List.subset_cons_of_subset word (inside command rest hr)⟩
    unfold scan at h
    split at h
    · split_ifs at h
      split at h
      · rename_i added
        exact go (add_spaceless earlier first added) h
      · cases h
    · split_ifs at h
      · cases h
        exact ⟨earlier, fun _ _ nothing => by cases nothing⟩
      · split at h
        · rename_i read
          exact go (optionWord_spaceless earlier first read) h
        · cases h
      · split at h
        · cases h
          refine ⟨earlier, fun command rest hr => ?_⟩
          cases hr
          exact List.subset_cons_self _ _
        · cases h

theorem find?_spaceless {pick : Given → Option String} {text : String} (spaceless : options.Spaceless)
    (texts : ∀ given text, pick given = some text → given.text? = some text) (h : options.find? pick = some text) :
    ' ' ∉ text.toList := by
  obtain ⟨option, mem, picked⟩ := List.exists_of_findSome?_eq_some h
  exact spaceless option mem text (texts option.2 text picked)

theorem handle?_spaceless {text : String} (spaceless : options.Spaceless) (h : options.handle? = some text) :
    ' ' ∉ text.toList := by
  refine find?_spaceless spaceless (fun given text picked => ?_) h
  cases given <;> cases picked
  rfl

theorem status?_spaceless {text : String} (spaceless : options.Spaceless) (h : options.status? = some text) :
    ' ' ∉ text.toList := by
  refine find?_spaceless spaceless (fun given text picked => ?_) h
  cases given <;> cases picked
  rfl

/-- a handle and a status that are read from words without spaces have none -/
theorem ofArguments_spaceless {words : List String} {verbose : Bool} {config : Path} {handle status : String} {ttl : ℤ}
    {remoteHost : Option String} (hw : ∀ word ∈ words, ' ' ∉ word.toList)
    (h : Invocation.ofArguments words = .ok ⟨verbose, config, .finish handle status ttl remoteHost⟩) :
    ' ' ∉ handle.toList ∧ ' ' ∉ status.toList := by
  unfold Invocation.ofArguments at h
  have nothing : Options.Spaceless [] := fun option mem => absurd mem List.not_mem_nil
  split at h
  · cases h
  · cases h
  rename_i before scope rest front
  split at h
  · cases h
  rename_i behind _ own
  obtain ⟨-, inside⟩ := scan_spaceless nothing hw front
  obtain ⟨spaceless, -⟩ := scan_spaceless nothing (fun word mem => hw word (inside scope rest rfl mem)) own
  split at h
  · cases h
  rename_i command made
  cases h
  unfold command? at made
  split at made
  · cases made
  · split at made <;> cases made
  · cases made
  · split at made
    · rename_i hh hs ht
      cases made
      exact ⟨handle?_spaceless spaceless hh, status?_spaceless spaceless hs⟩
    · cases made
  · cases made
  · cases made

end CheckReport.CommandLine
