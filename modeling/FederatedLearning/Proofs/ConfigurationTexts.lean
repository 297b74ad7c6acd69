import FederatedLearning.Round.Config
import FederatedLearning.Proofs.JsonObjects

/-!
# Configurations and their JSON texts

A configuration has many texts: the fields stand in any order, blanks stand between any
tokens, and a field may be left out where the configuration is the standard one.  All of
them are read as the configuration, and no other text of an object is.
-/

namespace FederatedLearning

open Json

theorem Count.eq_of_value_eq {count count' : Count} (same : count.value = count'.value) :
    count = count' := by
  cases count
  cases count'
  cases same
  rfl

namespace RoundConfig

variable {text left : List Char} {count : Count} {config known next : RoundConfig}
  {document : Document} {key : String} {members : List (String × Document)} {seen : List String}

/-- A seed as a document, which is `null` where there is none. -/
def seedDocument : Option UInt64 → Document
  | none => .null
  | some seed => .whole seed.toNat

/-- The fields of a configuration, with the documents of their values. -/
def entries (config : RoundConfig) : List (String × Document) :=
  [("clients", .whole config.clients.value), ("feature_dim", .whole config.features.value),
    ("examples_per_client", .whole config.examplesPerClient.value),
    ("batch_size", .whole config.batchSize.value), ("seed", seedDocument config.seed)]

/-- What the configuration has in the field of that name, if there is such a field. -/
def valueAt? (config : RoundConfig) (name : String) : Option Document :=
  config.entries.lookup name

/-- The members list fields of the configuration, each once at most, and leave out only
fields in which the configuration is the standard one. -/
structure Lists (members : List (String × Document)) (config : RoundConfig) : Prop where
  once : (members.map Prod.fst).Nodup
  own : ∀ member ∈ members, config.valueAt? member.1 = some member.2
  leftOut : ∀ name, name ∉ members.map Prod.fst →
    config.valueAt? name = standard.valueAt? name

/-! ## Values of fields -/

theorem readCount_eq_ok_iff :
    readCount text = .ok (count, left) ↔ integer text = .ok ((count.value : Int), left) := by
  rw [readCount, bind_eq_ok_iff]
  constructor
  · rintro ⟨value, middle, read, checked⟩
    cases value with
    | negSucc _ => cases checked
    | ofNat value =>
        dsimp only at checked
        split at checked
        · cases checked
          exact read
        · cases checked
  · intro read
    refine ⟨count.value, left, read, ?_⟩
    have fits : 0 < count.value ∧ count.value < UInt64.size := ⟨count.positive, count.bounded⟩
    show (dite (0 < count.value ∧ count.value < UInt64.size) _ _ : Reader Count) left = _
    rw [dif_pos fits]
    rfl

theorem readsAs_readCount :
    ReadsAs readCount fun document count => document = .whole count.value where
  skips := skipsGaps_integer.bind
  eq_ok_iff writes _ ends rest count left := by
    rw [readCount_eq_ok_iff]
    exact integer_eq_ofNat_iff writes ends count.bounded

theorem readsAs_readSeed : ReadsAs readSeed fun document seed => document = seedDocument seed := by
  have numbers := readsAs_natural64.optional fun number given => nomatch given.2
  apply numbers.map (Option.map Nat.toUInt64)
  intro document seed
  constructor
  · rintro rfl
    cases seed with
    | none => exact ⟨none, rfl, rfl⟩
    | some seed => exact ⟨some seed.toNat, ⟨seed.toNat_lt, rfl⟩, by simp⟩
  · rintro ⟨_ | number, given, rfl⟩
    · exact given
    · obtain ⟨fits, rfl⟩ := given
      have word : number.toUInt64.toNat = number := Nat.mod_eq_of_lt fits
      simp only [Option.map_some, seedDocument, word]

/-- The field of that name is set to the document, and nothing else is changed. -/
def Sets (name : String) (known : RoundConfig) (document : Document) (next : RoundConfig) : Prop :=
  ∀ other, next.valueAt? other = if other = name then some document else known.valueAt? other

theorem whole_inj {number number' : Nat} (same : Document.whole number = .whole number') :
    number = number' :=
  Numeral.ofNat_inj (Document.number.inj same)

theorem seedDocument_inj {seed seed' : Option UInt64}
    (same : seedDocument seed = seedDocument seed') : seed = seed' := by
  cases seed with
  | none =>
      cases seed' with
      | none => rfl
      | some _ => cases same
  | some seed =>
      cases seed' with
      | none => cases same
      | some seed' => rw [UInt64.toNat_inj.mp (whole_inj same)]

theorem eq_of_valueAt?_eq (same : ∀ name, config.valueAt? name = known.valueAt? name) :
    config = known := by
  have clients := Count.eq_of_value_eq (whole_inj (Option.some.inj (same "clients")))
  have features := Count.eq_of_value_eq (whole_inj (Option.some.inj (same "feature_dim")))
  have examples :=
    Count.eq_of_value_eq (whole_inj (Option.some.inj (same "examples_per_client")))
  have batch := Count.eq_of_value_eq (whole_inj (Option.some.inj (same "batch_size")))
  have seed := seedDocument_inj (Option.some.inj (same "seed"))
  cases config
  cases known
  simp_all

def fieldNames : List String :=
  ["clients", "feature_dim", "examples_per_client", "batch_size", "seed"]

theorem mem_fieldNames_of_valueAt? (given : config.valueAt? key = some document) :
    key ∈ fieldNames := by
  have found : (config.entries.lookup key).isSome := by
    rw [← valueAt?, given]
    rfl
  obtain ⟨entry, inside, named⟩ := List.lookup_isSome_iff.mp found
  rw [beq_iff_eq.mp named]
  exact List.mem_map_of_mem (f := Prod.fst) inside

/-- The configuration that has the named field of another one. -/
def withFieldOf (known config : RoundConfig) : String → RoundConfig
  | "clients" => { known with clients := config.clients }
  | "feature_dim" => { known with features := config.features }
  | "examples_per_client" => { known with examplesPerClient := config.examplesPerClient }
  | "batch_size" => { known with batchSize := config.batchSize }
  | "seed" => { known with seed := config.seed }
  | _ => known

theorem sets_withFieldOf (config : RoundConfig) (given : config.valueAt? key = some document)
    (known : RoundConfig) : Sets key known document (known.withFieldOf config key) := by
  intro other
  have named := mem_fieldNames_of_valueAt? given
  simp only [fieldNames, List.mem_cons, List.not_mem_nil, or_false] at named
  rcases named with rfl | rfl | rfl | rfl | rfl
  all_goals
    split
    · next same =>
        subst same
        exact given
    · next different =>
        have apart := beq_eq_false_iff_ne.mpr different
        simp only [valueAt?, entries, withFieldOf, List.lookup_cons, apart]

/-- A field is set by putting a value into it. -/
theorem sets_iff {α : Type} {name : String} {documentOf : α → Document}
    {put : α → RoundConfig} (get : RoundConfig → α)
    (got : ∀ config : RoundConfig, config.valueAt? name = some (documentOf (get config)))
    (sets : ∀ value, Sets name known (documentOf value) (put value)) :
    Sets name known document next ↔
      ∃ value, document = documentOf value ∧ put value = next := by
  constructor
  · intro setsNext
    have own : some (documentOf (get next)) = some document := by
      have given := setsNext name
      rwa [got next, if_pos rfl] at given
    obtain rfl := Option.some.inj own
    refine ⟨get next, rfl, eq_of_valueAt?_eq fun other => ?_⟩
    rw [sets (get next) other, setsNext other]
  · rintro ⟨value, rfl, rfl⟩
    exact sets value

theorem layout_means : layout.Means Sets where
  strict := rfl
  reads field inside known := by
    simp only [layout, List.mem_cons, List.not_mem_nil, or_false] at inside
    rcases inside with rfl | rfl | rfl | rfl | rfl
    · exact readsAs_readCount.map _ fun _ _ => sets_iff clients (fun _ => rfl) fun count =>
        sets_withFieldOf { known with clients := count } rfl known
    · exact readsAs_readCount.map _ fun _ _ => sets_iff features (fun _ => rfl) fun count =>
        sets_withFieldOf { known with features := count } rfl known
    · exact readsAs_readCount.map _ fun _ _ =>
        sets_iff examplesPerClient (fun _ => rfl) fun count =>
          sets_withFieldOf { known with examplesPerClient := count } rfl known
    · exact readsAs_readCount.map _ fun _ _ => sets_iff batchSize (fun _ => rfl) fun count =>
        sets_withFieldOf { known with batchSize := count } rfl known
    · exact readsAs_readSeed.map _ fun _ _ => sets_iff seed (fun _ => rfl) fun value =>
        sets_withFieldOf { known with seed := value } rfl known
  named {key known next document} sets := by
    have given : next.valueAt? key = some document := by rw [sets key, if_pos rfl]
    have named := mem_fieldNames_of_valueAt? given
    exact List.mem_map.mp (show key ∈ layout.fields.map FieldReader.name from named)

/-! ## Listings -/

/-- The members list fields of the configuration that have not been seen, each once, and
what is known is the configuration in all other fields. -/
structure Completes (seen : List String) (known : RoundConfig) (members : List (String × Document))
    (config : RoundConfig) : Prop where
  once : (members.map Prod.fst).Nodup
  fresh : ∀ name ∈ members.map Prod.fst, name ∉ seen
  own : ∀ member ∈ members, config.valueAt? member.1 = some member.2
  leftOut : ∀ name, name ∉ members.map Prod.fst → config.valueAt? name = known.valueAt? name

theorem completes_nil_iff : Completes seen known [] config ↔ config = known := by
  constructor
  · intro completes
    exact eq_of_valueAt?_eq fun name => completes.leftOut name List.not_mem_nil
  · rintro rfl
    exact ⟨List.nodup_nil, nofun, nofun, fun _ _ => rfl⟩

theorem Completes.tail (completes : Completes seen known ((key, document) :: members) config)
    (sets : Sets key known document next) : Completes (key :: seen) next members config := by
  obtain ⟨single, once⟩ := List.nodup_cons.mp completes.once
  refine ⟨once, ?_, fun member inside => completes.own member (.tail _ inside), ?_⟩
  · intro name inside again
    rcases List.mem_cons.mp again with rfl | before
    · exact single inside
    · exact completes.fresh name (.tail _ inside) before
  · intro name outside
    rw [sets name]
    split
    · next same => rw [same, completes.own _ List.mem_cons_self]
    · next different =>
        exact completes.leftOut name (List.not_mem_cons_of_ne_of_not_mem different outside)

theorem Completes.cons (completes : Completes (key :: seen) next members config)
    (fresh : key ∉ seen) (sets : Sets key known document next) :
    Completes seen known ((key, document) :: members) config := by
  have single : key ∉ members.map Prod.fst := fun again =>
    completes.fresh key again List.mem_cons_self
  refine ⟨List.nodup_cons.mpr ⟨single, completes.once⟩, ?_, ?_, ?_⟩
  · intro name inside before
    rcases List.mem_cons.mp inside with rfl | later
    · exact fresh before
    · exact completes.fresh name later (.tail _ before)
  · intro member inside
    rcases List.mem_cons.mp inside with rfl | later
    · rw [completes.leftOut key single, sets key, if_pos rfl]
    · exact completes.own member later
  · intro name outside
    have different := List.ne_of_not_mem_cons outside
    have others := List.not_mem_of_not_mem_cons outside
    rw [completes.leftOut name others, sets name, if_neg different]

theorem settles_iff_completes :
    Settles Sets seen known members config ↔ Completes seen known members config := by
  induction members generalizing seen known with
  | nil => rw [settles_nil_iff, completes_nil_iff]
  | cons member members induction =>
      obtain ⟨key, document⟩ := member
      rw [settles_cons_iff]
      constructor
      · rintro ⟨fresh, next, sets, settled⟩
        exact (induction.mp settled).cons fresh sets
      · intro completes
        have fresh := completes.fresh key List.mem_cons_self
        have sets := sets_withFieldOf config (completes.own _ List.mem_cons_self) known
        exact ⟨fresh, _, sets, induction.mpr (completes.tail sets)⟩

theorem completes_iff_lists : Completes [] standard members config ↔ Lists members config := by
  constructor
  · rintro ⟨once, _, own, leftOut⟩
    exact ⟨once, own, leftOut⟩
  · rintro ⟨once, own, leftOut⟩
    exact ⟨once, fun _ _ => List.not_mem_nil, own, leftOut⟩

theorem ofJson_eq_ok_iff_readAll {text : String} :
    ofJson text = .ok config ↔
      readAll (group maxDepth standard fun _ _ => layout) text = .ok config := by
  rw [ofJson]
  cases readAll (group maxDepth standard fun _ _ => layout) text with
  | error fault => exact ⟨nofun, nofun⟩
  | ok found => exact ⟨fun same => by cases same; rfl, fun same => by cases same; rfl⟩

/-- An object is read as the configuration that it lists, if it lists one. -/
theorem ofJson_eq_ok_iff_lists {text : String} (said : Says text.toList (.object members)) :
    ofJson text = .ok config ↔ Lists members config := by
  rw [ofJson_eq_ok_iff_readAll, ← completes_iff_lists, ← settles_iff_completes]
  exact readAll_group_eq_ok_iff layout_means said

def countNames : List String :=
  ["clients", "feature_dim", "examples_per_client", "batch_size"]

/-- The object gives a field twice, or something that is no field, or zero as a count. -/
inductive Spoiled (members : List (String × Document)) : Prop where
  | repeated : ¬(members.map Prod.fst).Nodup → Spoiled members
  | unknown {member : String × Document} :
      member ∈ members → member.1 ∉ fieldNames → Spoiled members
  | zero {name : String} {numeral : Numeral} :
      (name, .number numeral) ∈ members → name ∈ countNames → numeral.IsZero →
        Spoiled members

theorem exists_count_of_mem {name : String} (counts : name ∈ countNames) (config : RoundConfig) :
    ∃ count : Count, config.valueAt? name = some (.whole count.value) := by
  simp only [countNames, List.mem_cons, List.not_mem_nil, or_false] at counts
  rcases counts with rfl | rfl | rfl | rfl
  · exact ⟨config.clients, rfl⟩
  · exact ⟨config.features, rfl⟩
  · exact ⟨config.examplesPerClient, rfl⟩
  · exact ⟨config.batchSize, rfl⟩

theorem Spoiled.not_lists (spoiled : Spoiled members) : ¬Lists members config := by
  intro lists
  cases spoiled with
  | repeated again => exact again lists.once
  | unknown inside unknown => exact unknown (mem_fieldNames_of_valueAt? (lists.own _ inside))
  | zero inside counts zero =>
      obtain ⟨count, given⟩ := exists_count_of_mem counts config
      rw [lists.own _ inside] at given
      obtain rfl := Document.number.inj (Option.some.inj given)
      exact absurd (Numeral.eq_zero_of_isZero zero) (Nat.ne_of_gt count.positive)

/-- Whatever text says an object, it is read as a configuration exactly if the object lists
fields of the configuration and leaves out only standard ones; and it is refused if the
object gives a field twice, another name or zero as a count, whatever else it gives.  A
count is given by its decimal digits, and a seed by its digits or `null`. -/
theorem ofJson_reads_listings {text : String} (said : Says text.toList (.object members)) :
    (∀ config, ofJson text = .ok config ↔ Lists members config) ∧
      (Spoiled members → ∃ fault, ofJson text = .error (.invalid fault)) := by
  have reads (config : RoundConfig) : ofJson text = .ok config ↔ Lists members config :=
    ofJson_eq_ok_iff_lists said
  refine ⟨reads, fun spoiled => ?_⟩
  cases outcome : readAll (group maxDepth standard fun _ _ => layout) text with
  | error fault =>
      refine ⟨fault, ?_⟩
      rw [ofJson, outcome]
      rfl
  | ok config =>
      have lists := (reads config).mp (ofJson_eq_ok_iff_readAll.mpr outcome)
      exact absurd lists spoiled.not_lists

/-- Two clients, and a seed. -/
def seeded : RoundConfig :=
  { standard with clients := ⟨2, by decide, by decide⟩, seed := some 7 }

/-- Two fields in another order, with blanks around every token and an escaped key. -/
def reordered : String :=
  " \x7b \"seed\" : 7 ,\n\t\"\\u0063lients\" :2\r\x7d"

/-- One field under both spellings of its key. -/
def repeated : String :=
  "\x7b\"clients\":2,\n\t\"\\u0063lients\" :2\r\x7d"

theorem escaped_clients :
    SaysMember "\n\t\"\\u0063lients\" :2\r".toList ("clients", .whole 2) := by
  have unit : SpellsUnit ['0', '0', '6', '3'] 'c'.toNat :=
    @SpellsUnit.digits _ _ _ _ 0 0 6 3 (isHexDigit_digitChar (by decide))
      (isHexDigit_digitChar (by decide)) (isHexDigit_digitChar (by decide))
      (isHexDigit_digitChar (by decide))
  have escaped : Quotes "\"\\u0063lients\"".toList "clients" :=
    @Quotes.quotes _ "clients" (.cons (.unit unit) (spellsChars_flatMap "lients".toList))
  exact @SaysMember.member ['\n', '\t'] _ [' '] _ _ _ rfl escaped rfl
    (@Says.padded [] _ ['\r'] _ rfl (writes_whole 2) rfl)

theorem reordered_said :
    Says reordered.toList (.object [("seed", .whole 7), ("clients", .whole 2)]) := by
  have seed : SaysMember " \"seed\" : 7 ".toList ("seed", .whole 7) :=
    @SaysMember.member [' '] _ [' '] _ _ _ rfl (quotes_quoted "seed") rfl
      (@Says.padded [' '] _ [' '] _ rfl (writes_whole 7) rfl)
  exact @Says.padded [' '] _ [] _ rfl
    (.object (.cons seed (.cons escaped_clients .nil)) (.pieces _ _)) rfl

theorem repeated_said :
    Says repeated.toList (.object [("clients", .whole 2), ("clients", .whole 2)]) := by
  have clients : SaysMember "\"clients\":2".toList ("clients", .whole 2) :=
    @SaysMember.member [] _ [] _ _ _ rfl (quotes_quoted "clients") rfl
      (@Says.padded [] _ [] _ rfl (writes_whole 2) rfl)
  exact @Says.padded [] _ [] _ rfl
    (.object (.cons clients (.cons escaped_clients .nil)) (.pieces _ _)) rfl

theorem seeded_listed : Lists [("seed", .whole 7), ("clients", .whole 2)] seeded where
  once := by decide
  own member inside := by
    simp only [List.mem_cons, List.not_mem_nil, or_false] at inside
    rcases inside with rfl | rfl <;> rfl
  leftOut name outside := by
    simp only [List.map_cons, List.map_nil, List.mem_cons, List.not_mem_nil, or_false,
      not_or] at outside
    have notSeed := beq_eq_false_iff_ne.mpr outside.1
    have notClients := beq_eq_false_iff_ne.mpr outside.2
    simp only [valueAt?, entries, List.lookup_cons, notSeed, notClients]
    rfl

theorem reordered_read_repeated_refused :
    Says reordered.toList (.object [("seed", .whole 7), ("clients", .whole 2)]) ∧
      Lists [("seed", .whole 7), ("clients", .whole 2)] seeded ∧
      ofJson reordered = .ok seeded ∧
      Says repeated.toList (.object [("clients", .whole 2), ("clients", .whole 2)]) ∧
      Spoiled [("clients", .whole 2), ("clients", .whole 2)] ∧
      ∃ fault, ofJson repeated = .error (.invalid fault) := by
  have spoiled : Spoiled [("clients", .whole 2), ("clients", .whole 2)] := .repeated (by decide)
  exact ⟨reordered_said, seeded_listed,
    ((ofJson_reads_listings reordered_said).1 seeded).mpr seeded_listed,
    repeated_said, spoiled, (ofJson_reads_listings repeated_said).2 spoiled⟩

end RoundConfig

end FederatedLearning
