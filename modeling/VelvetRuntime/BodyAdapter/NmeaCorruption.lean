import VelvetRuntime.BodyAdapter.Nmea
import VelvetRuntime.Python.Separated

open python python.num python.str python.numeral python.except

namespace velvet.gnss_body_adapter

section checksum

theorem calculated_append_cons (before after : List Char) (c : Char) :
    calculated (before ++ c :: after) = calculated before ^^^ c.toNat ^^^ calculated after := by
  have hfold : ∀ (characters : List Char) (value : Nat),
      characters.foldl (fun value c => value ^^^ c.toNat) value = value ^^^ calculated characters := by
    intro characters
    induction characters with
    | nil => intro value; exact (Nat.xor_zero value).symm
    | cons c characters ih =>
      intro value
      rw [calculated, List.foldl_cons, List.foldl_cons, ih, ih, Nat.zero_xor, Nat.xor_assoc]
  rw [calculated, List.foldl_append, List.foldl_cons, hfold]
  rfl

/-- The checksum of two texts that differ in one character differs. -/
theorem calculated_ne {old new : Char} (hother : new ≠ old) (before after : List Char) :
    calculated (before ++ new :: after) ≠ calculated (before ++ old :: after) := by
  rw [calculated_append_cons, calculated_append_cons]
  intro hsame
  have hright := congrArg (· ^^^ calculated after) hsame
  simp only [Nat.xor_assoc, Nat.xor_self, Nat.xor_zero] at hright
  have hleft := congrArg (calculated before ^^^ ·) hright
  simp only [← Nat.xor_assoc, Nat.xor_self, Nat.zero_xor] at hleft
  exact hother (Char.toNat_inj.mp hleft)

theorem rsplit_star_append {body checksum : List Char} (hchecksum : '*' ∉ checksum) :
    rsplit_star (body ++ '*' :: checksum) = (body, checksum) := by
  have hkeep : ∀ c ∈ checksum.reverse, (decide (c ≠ '*')) = true := fun c hc =>
    decide_eq_true (fun heq => hchecksum (heq ▸ List.mem_reverse.mp hc))
  unfold rsplit_star
  rw [List.reverse_append, List.reverse_cons, List.append_assoc, List.dropWhile_append_of_pos hkeep,
    List.takeWhile_append_of_pos hkeep]
  simp

/-- A text with a star is split at its last one. -/
theorem exists_last_star {text : List Char} (hstar : '*' ∈ text) :
    ∃ body checksum, text = body ++ '*' :: checksum ∧ '*' ∉ checksum := by
  obtain ⟨checksum, body, hreverse, hchecksum⟩ := List.eq_append_cons_of_mem (List.mem_reverse.mpr hstar)
  refine ⟨body.reverse, checksum.reverse, ?_, fun hmem => hchecksum (List.mem_reverse.mp hmem)⟩
  rw [← List.reverse_reverse text, hreverse, List.reverse_append, List.reverse_cons, List.append_assoc,
    List.singleton_append]

end checksum

section lines

variable [Numerals] [StrUpper]

section sentences

variable {line sentence body checksum : List Char} {max_sentence_length : Int}

/-- A sentence with a checksum is refused, or its checksum is right and it says what its fields say. -/
theorem parse_with_checksum (hsentence : strip line = body ++ '*' :: checksum) (hchecksum : '*' ∉ checksum)
    (max_sentence_length : Int) : (∃ error, parse_nmea_sentence line max_sentence_length = .error error) ∨
      (body ++ ['*']).head? = some '$' ∧ checksum.length = 2 ∧ int_of_hex checksum = some (calculated (body.drop 1) : Int) ∧
        parse_nmea_sentence line max_sentence_length = parse_fields (body.splitOn ',') := by
  unfold parse_nmea_sentence
  dsimp only
  rw [hsentence]
  split
  · exact .inl ⟨_, rfl⟩
  split
  · exact .inl ⟨_, rfl⟩
  rename_i hhead
  have hhead : (body ++ ['*']).head? = some '$' := by
    cases body with
    | nil => exact not_not.mp hhead
    | cons c rest => exact not_not.mp hhead
  unfold split_checksum
  rw [if_neg (by simp), rsplit_star_append hchecksum]
  split
  · exact .inl ⟨_, rfl⟩
  rename_i hlength
  rw [ok_bind]
  unfold check_checksum
  dsimp only
  split
  · exact .inl ⟨_, rfl⟩
  rename_i expected hexpected
  split
  · exact .inl ⟨_, rfl⟩
  rename_i hmatch
  exact .inr ⟨hhead, not_not.mp hlength, by rw [hexpected, not_not.mp hmatch], rfl⟩

/-- A sentence without a star is refused, or it says what its fields say. -/
theorem parse_without_checksum (hsentence : '*' ∉ strip line) (max_sentence_length : Int) :
    (∃ error, parse_nmea_sentence line max_sentence_length = .error error) ∨
      parse_nmea_sentence line max_sentence_length = parse_fields ((strip line).splitOn ',') := by
  unfold parse_nmea_sentence
  dsimp only
  split
  · exact .inl ⟨_, rfl⟩
  split
  · exact .inl ⟨_, rfl⟩
  unfold split_checksum
  rw [if_pos hsentence]
  exact .inr rfl

/-- A sentence that does not start with a dollar sign is refused. -/
theorem parse_without_dollar (hsentence : (strip line).head? ≠ some '$') (max_sentence_length : Int) :
    ∃ error, parse_nmea_sentence line max_sentence_length = .error error := by
  unfold parse_nmea_sentence
  dsimp only
  rw [if_pos hsentence]
  split
  · exact ⟨_, rfl⟩
  · exact ⟨_, rfl⟩

/-- The parts of a line with a checksum that is accepted. -/
structure Parts (line front characters back : List Char) (high low : Char) : Prop where
  line_eq : line = front ++ ('$' :: characters ++ ['*', high, low]) ++ back
  front_spaces : ∀ c ∈ front, isspace c = true
  back_spaces : ∀ c ∈ back, isspace c = true
  low_visible : isspace low = false
  high_no_star : high ≠ '*'
  low_no_star : low ≠ '*'
  checksum_right : int_of_hex [high, low] = some (calculated characters : Int)

theorem exists_parts {observation : NmeaObservation} (hstar : '*' ∈ line)
    (hok : parse_nmea_sentence line max_sentence_length = .ok observation) :
    ∃ front characters back high low, Parts line front characters back high low ∧
      parse_fields (('$' :: characters).splitOn ',') = .ok observation := by
  obtain ⟨front, back, hline, hfront, hback⟩ := exists_surrounded line
  have hinner : '*' ∈ strip line := by
    rw [hline, List.mem_append, List.mem_append] at hstar
    rcases hstar with (hstar | hstar) | hstar
    · exact absurd hstar (not_mem_of_spaces hfront (by decide))
    · exact hstar
    · exact absurd hstar (not_mem_of_spaces hback (by decide))
  obtain ⟨body, checksum, hsentence, hchecksum⟩ := exists_last_star hinner
  rcases parse_with_checksum hsentence hchecksum max_sentence_length with
    ⟨error, herror⟩ | ⟨hhead, hlength, hright, hfields⟩
  · cases herror.symm.trans hok
  obtain ⟨high, low, rfl⟩ := List.length_eq_two.mp hlength
  cases body with
  | nil => exact absurd hhead (by decide)
  | cons c characters =>
    cases hhead
    have hlow : isspace low = false := by
      have hstripped := ((strip_eq_self_iff _).mp (strip_strip line)).2
      have hlast : strip line = ('$' :: characters ++ ['*', high]) ++ [low] := by rw [hsentence]; simp
      rw [hlast, List.getLast?_concat] at hstripped
      exact hstripped low rfl
    rw [List.mem_cons, List.mem_singleton, not_or] at hchecksum
    refine ⟨front, characters, back, high, low, ⟨?_, hfront, hback, hlow, Ne.symm hchecksum.1, Ne.symm hchecksum.2,
      hright⟩, hfields ▸ hok⟩
    rw [hline, hsentence]

end sentences

section fields

/-- The fields from the second one up to the given index are the same, and both lists are long enough or neither is. -/
structure Alike (last : Nat) (fields fields' : List (List Char)) : Prop where
  enough : fields'.length < 10 ↔ fields.length < 10
  same : ∀ index, 1 ≤ index → index < last → field fields' index = field fields index

variable {fields fields' : List (List Char)} {observation : NmeaObservation}

section

variable (halike : Alike 10 fields fields')

include halike

theorem parse_gga_alike : parse_gga fields' = parse_gga fields := by
  have hsame := halike.same
  unfold parse_gga
  simp only [halike.enough, hsame 1 (by omega) (by omega), hsame 2 (by omega) (by omega), hsame 3 (by omega) (by omega),
    hsame 4 (by omega) (by omega), hsame 5 (by omega) (by omega), hsame 6 (by omega) (by omega),
    hsame 7 (by omega) (by omega), hsame 8 (by omega) (by omega), hsame 9 (by omega) (by omega)]

theorem parse_rmc_alike : parse_rmc fields' = parse_rmc fields := by
  have hsame := halike.same
  have hstatus : status fields' = status fields := by
    unfold status
    rw [hsame 2 (by omega) (by omega)]
  unfold parse_rmc
  simp only [halike.enough, hstatus, hsame 1 (by omega) (by omega), hsame 3 (by omega) (by omega),
    hsame 4 (by omega) (by omega), hsame 5 (by omega) (by omega), hsame 6 (by omega) (by omega),
    hsame 7 (by omega) (by omega), hsame 8 (by omega) (by omega), hsame 9 (by omega) (by omega)]

theorem parse_fields_alike (hfirst : field fields' 0 = field fields 0) :
    parse_fields fields' = parse_fields fields := by
  unfold parse_fields
  rw [hfirst, parse_gga_alike halike, parse_rmc_alike halike]

end

/-- What stands before a talker that is long enough does not matter. -/
theorem parse_fields_front {talker : List Char} (hlong : 5 ≤ talker.length) (front : List Char)
    (others : List (List Char)) :
    parse_fields (('$' :: (front ++ '$' :: talker)) :: others) = parse_fields (('$' :: talker) :: others) := by
  have halike : Alike 10 (('$' :: talker) :: others) (('$' :: (front ++ '$' :: talker)) :: others) := by
    refine ⟨Iff.rfl, fun index hindex _ => ?_⟩
    obtain ⟨index, rfl⟩ := Nat.exists_eq_add_of_le' hindex
    rfl
  have hlast : (front ++ '$' :: talker).drop ((front ++ '$' :: talker).length - 3) = talker.drop (talker.length - 3) := by
    have hlength : (front ++ '$' :: talker).length - 3 = (front ++ ['$']).length + (talker.length - 3) := by
      simp only [List.length_append, List.length_cons, List.length_nil]
      omega
    rw [hlength, show front ++ '$' :: talker = (front ++ ['$']) ++ talker from List.append_cons _ _ _,
      List.drop_length_add_append]
  have htype : (field (('$' :: (front ++ '$' :: talker)) :: others) 0).drop 1 = front ++ '$' :: talker := rfl
  have htalker : (field (('$' :: talker) :: others) 0).drop 1 = talker := rfl
  have hfront : ¬(front ++ '$' :: talker).length < 5 := by
    rw [List.length_append, List.length_cons]
    omega
  unfold parse_fields
  rw [parse_gga_alike halike, parse_rmc_alike halike, htype, htalker]
  dsimp only
  rw [if_neg hfront, if_neg (Nat.not_lt.mpr hlong), hlast]

/-- An observation without its last field: the altitude or the date. -/
def NmeaObservation.drop_last : NmeaObservation → NmeaObservation
  | gga gnss_utc fix_quality satellites horizontal_dilution _ latitude longitude =>
    .gga gnss_utc fix_quality satellites horizontal_dilution none latitude longitude
  | rmc gnss_utc active _ speed_kmh course_deg latitude longitude =>
    .rmc gnss_utc active none speed_kmh course_deg latitude longitude

section

variable (halike : Alike 9 fields fields')

include halike

theorem parse_gga_last (hok : parse_gga fields = .ok observation) :
    (∃ error, parse_gga fields' = .error error) ∨
      ∃ other, parse_gga fields' = .ok other ∧ other.drop_last = observation.drop_last := by
  have hsame := halike.same
  unfold parse_gga at hok ⊢
  simp only [halike.enough, hsame 1 (by omega) (by omega), hsame 2 (by omega) (by omega), hsame 3 (by omega) (by omega),
    hsame 4 (by omega) (by omega), hsame 5 (by omega) (by omega), hsame 6 (by omega) (by omega),
    hsame 7 (by omega) (by omega), hsame 8 (by omega) (by omega)]
  obtain ⟨hlong, hok⟩ := guard_eq_ok.mp hok
  obtain ⟨fix_quality, hquality, hok⟩ := bind_eq_ok.mp hok
  obtain ⟨satellites, hsatellites, hok⟩ := bind_eq_ok.mp hok
  obtain ⟨dilution, hdilution, hok⟩ := bind_eq_ok.mp hok
  obtain ⟨altitude, haltitude, hok⟩ := bind_eq_ok.mp hok
  rw [if_neg hlong, hquality, ok_bind, hsatellites, ok_bind, hdilution, ok_bind]
  cases optional_number (field fields' 9) "GGA altitude" with
  | error error => exact .inl ⟨error, rfl⟩
  | ok other =>
    rw [ok_bind]
    right
    split at hok
    · rename_i hfix
      obtain ⟨latitude, hlatitude, hok⟩ := bind_eq_ok.mp hok
      obtain ⟨longitude, hlongitude, hok⟩ := bind_eq_ok.mp hok
      cases hok
      rw [if_pos hfix, hlatitude, ok_bind, hlongitude, ok_bind]
      exact ⟨_, rfl, rfl⟩
    · rename_i hfix
      cases hok
      rw [if_neg hfix]
      exact ⟨_, rfl, rfl⟩

theorem parse_rmc_last (hok : parse_rmc fields = .ok observation) :
    ∃ other, parse_rmc fields' = .ok other ∧ other.drop_last = observation.drop_last := by
  have hsame := halike.same
  have hstatus : status fields' = status fields := by
    unfold status
    rw [hsame 2 (by omega) (by omega)]
  unfold parse_rmc at hok ⊢
  simp only [halike.enough, hstatus, hsame 1 (by omega) (by omega), hsame 3 (by omega) (by omega),
    hsame 4 (by omega) (by omega), hsame 5 (by omega) (by omega), hsame 6 (by omega) (by omega),
    hsame 7 (by omega) (by omega), hsame 8 (by omega) (by omega)]
  obtain ⟨hlong, hok⟩ := guard_eq_ok.mp hok
  obtain ⟨hknown, hok⟩ := guard_eq_ok.mp hok
  obtain ⟨course, hcourse, hok⟩ := bind_eq_ok.mp hok
  obtain ⟨speed, hspeed, hok⟩ := bind_eq_ok.mp hok
  rw [if_neg hlong, if_neg hknown, hcourse, ok_bind, hspeed, ok_bind]
  dsimp only at hok ⊢
  split at hok
  · rename_i hactive
    obtain ⟨latitude, hlatitude, hok⟩ := bind_eq_ok.mp hok
    obtain ⟨longitude, hlongitude, hok⟩ := bind_eq_ok.mp hok
    cases hok
    rw [if_pos hactive, hlatitude, ok_bind, hlongitude, ok_bind]
    exact ⟨_, rfl, rfl⟩
  · rename_i hactive
    cases hok
    rw [if_neg hactive]
    exact ⟨_, rfl, rfl⟩

/-- Sentences whose fields are the same up to the last one that is read differ in what that one says at most. -/
theorem parse_fields_last (hfirst : field fields' 0 = field fields 0)
    (hok : parse_fields fields = .ok observation) :
    (∃ error, parse_fields fields' = .error error) ∨
      ∃ other, parse_fields fields' = .ok other ∧ other.drop_last = observation.drop_last := by
  unfold parse_fields at hok ⊢
  rw [hfirst]
  dsimp only at hok ⊢
  split at hok
  · cases hok
  rename_i hlong
  rw [if_neg hlong]
  split at hok
  · rename_i hgga
    rw [if_pos hgga]
    exact parse_gga_last halike hok
  rename_i hgga
  rw [if_neg hgga]
  split at hok
  · rename_i hrmc
    rw [if_pos hrmc]
    exact .inr (parse_rmc_last halike hok)
  · cases hok

end

end fields

section replaced

variable {front characters back : List Char} {high low : Char} {observation : NmeaObservation}
  {max_sentence_length : Int}

omit [Numerals] [StrUpper] in
/-- The fields of a sentence with white space and a dollar sign in front. -/
theorem fields_front (hspaces : ∀ c ∈ front, isspace c = true) (characters : List Char) :
    ∃ talker others, ('$' :: characters).splitOn ',' = ('$' :: talker) :: others ∧
      ('$' :: (front ++ '$' :: characters)).splitOn ',' = ('$' :: (front ++ '$' :: talker)) :: others := by
  obtain ⟨talker, others, hfields⟩ := List.exists_cons_of_ne_nil (splitOn_ne_nil ',' characters)
  have hcomma := not_mem_of_spaces (c := ',') hspaces (by decide)
  refine ⟨talker, others, ?_, ?_⟩
  · change (['$'] ++ characters).splitOn ',' = _
    rw [splitOn_append_of_not_mem (by decide), hfields]
    rfl
  · have hlist : '$' :: (front ++ '$' :: characters) = ('$' :: (front ++ ['$'])) ++ characters := by simp
    rw [hlist, splitOn_append_of_not_mem (by simpa using hcomma), hfields]
    simp

theorem parse_fields_short {talker : List Char} (hshort : talker.length < 5) (others : List (List Char)) :
    ∃ error, parse_fields (('$' :: talker) :: others) = .error error := by
  have htalker : (field (('$' :: talker) :: others) 0).drop 1 = talker := rfl
  unfold parse_fields
  rw [htalker, if_pos hshort]
  exact ⟨_, rfl⟩

/-- A checksum that has not two characters is refused. -/
theorem short_checksum_refused {line body checksum : List Char} (hsentence : strip line = body ++ '*' :: checksum)
    (hstar : '*' ∉ checksum) (hlength : checksum.length ≠ 2) :
    ∃ error, parse_nmea_sentence line max_sentence_length = .error error := by
  rcases parse_with_checksum hsentence hstar max_sentence_length with hrefused | ⟨-, htwo, -, -⟩
  · exact hrefused
  · exact absurd htwo hlength

theorem digits_replaced (hfront : ∀ c ∈ front, isspace c = true) (hback : ∀ c ∈ back, isspace c = true)
    (hok : parse_fields (('$' :: characters).splitOn ',') = .ok observation) (high low : Char) :
    (∃ error, parse_nmea_sentence (front ++ ('$' :: characters ++ ['*', high, low]) ++ back)
        max_sentence_length = .error error) ∨
      parse_nmea_sentence (front ++ ('$' :: characters ++ ['*', high, low]) ++ back)
        max_sentence_length = .ok observation := by
  have hdollar : isspace '$' = false := by decide
  by_cases hlow : isspace low = true
  · left
    have hback' : ∀ c ∈ low :: back, isspace c = true := List.forall_mem_cons.mpr ⟨hlow, hback⟩
    by_cases hhigh : isspace high = true
    · have hback'' : ∀ c ∈ high :: low :: back, isspace c = true := List.forall_mem_cons.mpr ⟨hhigh, hback'⟩
      have hsentence : strip (front ++ ('$' :: characters ++ ['*', high, low]) ++ back) = '$' :: characters ++ '*' :: [] := by
        simpa using strip_framed hfront hback'' hdollar (by decide : isspace '*' = false) characters
      exact short_checksum_refused hsentence (by decide) (by decide)
    rw [Bool.not_eq_true] at hhigh
    by_cases hstar : high = '*'
    · subst hstar
      have hsentence : strip (front ++ ('$' :: characters ++ ['*', '*', low]) ++ back) =
          '$' :: characters ++ ['*'] ++ '*' :: [] := by
        simpa using strip_framed hfront hback' hdollar hhigh (characters ++ ['*'])
      exact short_checksum_refused hsentence (by decide) (by decide)
    · have hsentence : strip (front ++ ('$' :: characters ++ ['*', high, low]) ++ back) =
          '$' :: characters ++ '*' :: [high] := by
        simpa using strip_framed hfront hback' hdollar hhigh (characters ++ ['*'])
      exact short_checksum_refused hsentence (by simpa using Ne.symm hstar) (by simp)
  rw [Bool.not_eq_true] at hlow
  have hsentence : strip (front ++ ('$' :: characters ++ ['*', high, low]) ++ back) =
      '$' :: characters ++ '*' :: [high, low] := by
    simpa using strip_framed hfront hback hdollar hlow (characters ++ ['*', high])
  by_cases hlow_star : low = '*'
  · subst hlow_star
    have hlast := hsentence.trans (by simp :
      '$' :: characters ++ '*' :: [high, '*'] = '$' :: characters ++ ['*', high] ++ '*' :: [])
    exact .inl (short_checksum_refused hlast (by decide) (by decide))
  by_cases hhigh_star : high = '*'
  · subst hhigh_star
    have hlast := hsentence.trans (by simp :
      '$' :: characters ++ '*' :: ['*', low] = '$' :: characters ++ ['*'] ++ '*' :: [low])
    exact .inl (short_checksum_refused hlast (by simpa using Ne.symm hlow_star) (by simp))
  have hstar : '*' ∉ [high, low] := by
    rw [List.mem_cons, List.mem_singleton, not_or]
    exact ⟨Ne.symm hhigh_star, Ne.symm hlow_star⟩
  rcases parse_with_checksum hsentence hstar max_sentence_length with hrefused | ⟨-, -, -, hparse⟩
  · exact .inl hrefused
  · exact .inr (hparse.trans hok)

variable {new : Char}

theorem front_replaced {front' : List Char} (hfront : ∀ c ∈ front, isspace c = true)
    (hfront' : ∀ c ∈ front', isspace c = true) (hback : ∀ c ∈ back, isspace c = true) (hlow : isspace low = false)
    (hstar : '*' ∉ [high, low]) (hok : parse_fields (('$' :: characters).splitOn ',') = .ok observation) :
    (∃ error, parse_nmea_sentence (front ++ new :: front' ++ ('$' :: characters ++ ['*', high, low]) ++ back)
        max_sentence_length = .error error) ∨
      parse_nmea_sentence (front ++ new :: front' ++ ('$' :: characters ++ ['*', high, low]) ++ back)
        max_sentence_length = .ok observation := by
  by_cases hnew : isspace new = true
  · have hspaces : ∀ c ∈ front ++ new :: front', isspace c = true :=
      List.forall_mem_append.mpr ⟨hfront, List.forall_mem_cons.mpr ⟨hnew, hfront'⟩⟩
    exact digits_replaced hspaces hback hok high low
  rw [Bool.not_eq_true] at hnew
  have hsentence : strip (front ++ new :: front' ++ ('$' :: characters ++ ['*', high, low]) ++ back) =
      new :: (front' ++ '$' :: characters) ++ '*' :: [high, low] := by
    simpa using strip_framed hfront hback hnew hlow (front' ++ '$' :: characters ++ ['*', high])
  by_cases hdollar : new = '$'
  · subst hdollar
    rcases parse_with_checksum hsentence hstar max_sentence_length with hrefused | ⟨-, -, -, hparse⟩
    · exact .inl hrefused
    obtain ⟨talker, others, hfields, hfields'⟩ := fields_front hfront' characters
    rw [hfields'] at hparse
    rw [hfields] at hok
    have hlong : 5 ≤ talker.length := by
      by_contra hshort
      obtain ⟨error, herror⟩ := parse_fields_short (Nat.not_le.mp hshort) others
      cases herror.symm.trans hok
    exact .inr (hparse.trans ((parse_fields_front hlong front' others).trans hok))
  · refine .inl (parse_without_dollar ?_ max_sentence_length)
    rw [hsentence]
    exact fun hhead => hdollar (Option.some.inj hhead)

theorem dollar_replaced (hother : new ≠ '$') (hfront : ∀ c ∈ front, isspace c = true)
    (hback : ∀ c ∈ back, isspace c = true) (hlow : isspace low = false) (hstar : '*' ∉ [high, low])
    (hok : parse_fields (('$' :: characters).splitOn ',') = .ok observation) :
    (∃ error, parse_nmea_sentence (front ++ (new :: characters ++ ['*', high, low]) ++ back)
        max_sentence_length = .error error) ∨
      parse_nmea_sentence (front ++ (new :: characters ++ ['*', high, low]) ++ back)
        max_sentence_length = .ok observation := by
  by_cases hnew : isspace new = true
  · obtain ⟨spaces, rest, hcharacters, hspaces, hrest⟩ : ∃ spaces rest, characters = spaces ++ rest ∧
        (∀ c ∈ spaces, isspace c = true) ∧ ∀ c ∈ rest.head?, isspace c = false := by
      refine ⟨characters.takeWhile isspace, characters.dropWhile isspace, List.takeWhile_append_dropWhile.symm,
        fun c hc => List.mem_takeWhile_imp hc, fun c hc => ?_⟩
      have hhead := List.head?_dropWhile_not isspace characters
      rw [hc] at hhead
      simpa using hhead
    subst hcharacters
    have hfront' : ∀ c ∈ front ++ new :: spaces, isspace c = true :=
      List.forall_mem_append.mpr ⟨hfront, List.forall_mem_cons.mpr ⟨hnew, hspaces⟩⟩
    cases rest with
    | nil =>
      have hsentence : strip (front ++ (new :: (spaces ++ []) ++ ['*', high, low]) ++ back) = ['*', high, low] := by
        simpa using strip_framed hfront' hback (by decide : isspace '*' = false) hlow [high]
      exact .inl (parse_without_dollar (by rw [hsentence]; exact fun hhead => absurd (Option.some.inj hhead) (by decide)) max_sentence_length)
    | cons first rest =>
      have hsentence : strip (front ++ (new :: (spaces ++ first :: rest) ++ ['*', high, low]) ++ back) =
          first :: rest ++ '*' :: [high, low] := by
        simpa using strip_framed hfront' hback (hrest first rfl) hlow (rest ++ ['*', high])
      by_cases hdollar : first = '$'
      · subst hdollar
        rcases parse_with_checksum hsentence hstar max_sentence_length with hrefused | ⟨-, -, -, hparse⟩
        · exact .inl hrefused
        obtain ⟨talker, others, hfields, hfields'⟩ := fields_front hspaces rest
        rw [hfields] at hparse
        rw [hfields'] at hok
        rw [hparse]
        by_cases hlong : 5 ≤ talker.length
        · exact .inr ((parse_fields_front hlong spaces others).symm.trans hok)
        · exact .inl (parse_fields_short (Nat.not_le.mp hlong) others)
      · refine .inl (parse_without_dollar ?_ max_sentence_length)
        rw [hsentence]
        exact fun hhead => hdollar (Option.some.inj hhead)
  · rw [Bool.not_eq_true] at hnew
    have hsentence : strip (front ++ (new :: characters ++ ['*', high, low]) ++ back) =
        new :: characters ++ ['*', high, low] := by
      simpa using strip_framed hfront hback hnew hlow (characters ++ ['*', high])
    refine .inl (parse_without_dollar ?_ max_sentence_length)
    rw [hsentence]
    exact fun hhead => hother (Option.some.inj hhead)

theorem character_replaced {before after : List Char} {old new : Char} (hother : new ≠ old)
    (hfront : ∀ c ∈ front, isspace c = true) (hback : ∀ c ∈ back, isspace c = true) (hlow : isspace low = false)
    (hstar : '*' ∉ [high, low]) (hright : int_of_hex [high, low] = some (calculated (before ++ old :: after) : Int)) :
    ∃ error, parse_nmea_sentence (front ++ ('$' :: (before ++ new :: after) ++ ['*', high, low]) ++ back)
      max_sentence_length = .error error := by
  have hsentence : strip (front ++ ('$' :: (before ++ new :: after) ++ ['*', high, low]) ++ back) =
      '$' :: (before ++ new :: after) ++ '*' :: [high, low] := by
    simpa using strip_framed hfront hback (by decide : isspace '$' = false) hlow (before ++ new :: after ++ ['*', high])
  rcases parse_with_checksum hsentence hstar max_sentence_length with hrefused | ⟨-, -, hwrong, -⟩
  · exact hrefused
  · have hsame := Option.some.inj (hwrong.symm.trans hright)
    exact absurd (Int.ofNat_inj.mp hsame) (calculated_ne hother before after)

/-- A sentence that is accepted has ten fields. -/
theorem ten_fields_of_ok {fields : List (List Char)} (hok : parse_fields fields = .ok observation) :
    10 ≤ fields.length := by
  by_contra hshort
  rw [Nat.not_le] at hshort
  unfold parse_fields parse_gga parse_rmc at hok
  simp only [if_pos hshort] at hok
  split_ifs at hok

omit [Numerals] [StrUpper] in
theorem field_append {common : List (List Char)} {index : Nat} (hindex : index < common.length)
    (rest : List (List Char)) : field (common ++ rest) index = field common index := by
  unfold field
  rw [List.getD_eq_getElem?_getD, List.getD_eq_getElem?_getD, List.getElem?_append_left hindex]

omit [Numerals] [StrUpper] in
theorem alike_of_common {last : Nat} {common rest rest' : List (List Char)} (hlast : last ≤ common.length)
    (henough : 10 ≤ (common ++ rest).length) (henough' : 10 ≤ (common ++ rest').length) :
    Alike last (common ++ rest) (common ++ rest') := by
  refine ⟨by omega, fun index _ hindex => ?_⟩
  rw [field_append (hindex.trans_le hlast), field_append (hindex.trans_le hlast)]

/-- The separator of the checksum is replaced where it is the only star of a line with ten fields, and not by a comma. -/
structure SeparatorLost (before after : List Char) (old new : Char) : Prop where
  star : old = '*'
  only : '*' ∉ before ∧ '*' ∉ after
  ten_fields : before.count ',' = 9
  no_comma : new ≠ ','

theorem star_replaced (hother : new ≠ '*') (hfront : ∀ c ∈ front, isspace c = true)
    (hback : ∀ c ∈ back, isspace c = true) (hlow : isspace low = false) (hstar : '*' ∉ [high, low])
    (hok : parse_fields (('$' :: characters).splitOn ',') = .ok observation) :
    (∃ error, parse_nmea_sentence (front ++ ('$' :: characters ++ [new, high, low]) ++ back)
        max_sentence_length = .error error) ∨
      parse_nmea_sentence (front ++ ('$' :: characters ++ [new, high, low]) ++ back)
        max_sentence_length = .ok observation ∨
      SeparatorLost (front ++ '$' :: characters) ([high, low] ++ back) '*' new ∧
        ∃ other, parse_nmea_sentence (front ++ ('$' :: characters ++ [new, high, low]) ++ back)
          max_sentence_length = .ok other ∧ other.drop_last = observation.drop_last := by
  have hsentence : strip (front ++ ('$' :: characters ++ [new, high, low]) ++ back) =
      '$' :: characters ++ [new, high, low] := by
    simpa using strip_framed hfront hback (by decide : isspace '$' = false) hlow (characters ++ [new, high])
  have htail : '*' ∉ [new, high, low] := by
    rw [List.mem_cons, not_or]
    exact ⟨Ne.symm hother, hstar⟩
  by_cases hinner : '*' ∈ characters
  · obtain ⟨body, checksum, rfl, hchecksum⟩ := exists_last_star hinner
    have hstars : '*' ∉ checksum ++ [new, high, low] := by
      rw [List.mem_append, not_or]
      exact ⟨hchecksum, htail⟩
    have hearlier := hsentence.trans (by simp :
      '$' :: (body ++ '*' :: checksum) ++ [new, high, low] = '$' :: body ++ '*' :: (checksum ++ [new, high, low]))
    rcases parse_with_checksum hearlier hstars max_sentence_length with hrefused | ⟨-, hlength, -, -⟩
    · exact .inl hrefused
    · rw [List.length_append, List.length_cons, List.length_cons, List.length_cons] at hlength
      omega
  have hnone : '*' ∉ strip (front ++ ('$' :: characters ++ [new, high, low]) ++ back) := by
    rw [hsentence, List.mem_append, List.mem_cons, not_or, not_or]
    exact ⟨⟨by decide, hinner⟩, htail⟩
  rcases parse_without_checksum hnone max_sentence_length with hrefused | hparse
  · exact .inl hrefused
  rw [hsentence] at hparse
  have hten := ten_fields_of_ok hok
  by_cases hcomma : new = ','
  · subst hcomma
    refine .inr (.inl ?_)
    have hfields : ('$' :: characters ++ [',', high, low]).splitOn ',' =
        ('$' :: characters).splitOn ',' ++ [high, low].splitOn ',' := List.splitOn_append_cons_self _ _
    rw [hparse, hfields, ← hok]
    have henough : 10 ≤ (('$' :: characters).splitOn ',' ++ []).length := by rwa [List.append_nil]
    have henough' : 10 ≤ (('$' :: characters).splitOn ',' ++ [high, low].splitOn ',').length := by
      rw [List.length_append]
      omega
    have halike := alike_of_common hten henough henough'
    rw [List.append_nil] at halike
    exact parse_fields_alike halike (field_append (by omega) _)
  obtain ⟨rest, hrest, hfields⟩ := splitOn_append_end ',' ('$' :: characters) [new, high, low]
  have hlong : 0 < rest.length := List.length_pos_iff.mpr hrest
  obtain ⟨common, last, hcommon⟩ : ∃ common last, ('$' :: characters).splitOn ',' = common ++ [last] :=
    ⟨_, _, (List.dropLast_append_getLast (splitOn_ne_nil ',' _)).symm⟩
  have hcount := length_splitOn ',' ('$' :: characters)
  rw [hfields, hcommon, List.dropLast_concat] at hparse
  rw [hcommon] at hok hten hcount
  rw [List.length_append, List.length_singleton] at hten hcount
  have henough : 10 ≤ (common ++ [last]).length := by
    rw [List.length_append, List.length_singleton]
    exact hten
  have henough' : 10 ≤ (common ++ rest).length := by
    rw [List.length_append]
    omega
  have hfirst : field (common ++ rest) 0 = field (common ++ [last]) 0 := by
    rw [field_append (by omega), field_append (by omega)]
  rw [hparse]
  by_cases hmore : 10 ≤ common.length
  · refine .inr (.inl ?_)
    rw [← hok]
    exact parse_fields_alike (alike_of_common hmore henough henough') hfirst
  rcases parse_fields_last (alike_of_common (by omega) henough henough') hfirst hok with hrefused | hlast
  · exact .inl hrefused
  refine .inr (.inr ⟨⟨rfl, ⟨?_, ?_⟩, ?_, hcomma⟩, hlast⟩)
  · rw [List.mem_append, List.mem_cons, not_or, not_or]
    exact ⟨not_mem_of_spaces hfront (by decide), by decide, hinner⟩
  · rw [List.mem_append, not_or]
    exact ⟨hstar, not_mem_of_spaces hback (by decide)⟩
  · rw [List.count_append, List.count_eq_zero_of_not_mem (not_mem_of_spaces hfront (by decide))]
    omega

theorem back_replaced {back' : List Char} (hfront : ∀ c ∈ front, isspace c = true)
    (hback : ∀ c ∈ back, isspace c = true) (hback' : ∀ c ∈ back', isspace c = true) (hstar : '*' ∉ [high, low])
    (hok : parse_fields (('$' :: characters).splitOn ',') = .ok observation) :
    (∃ error, parse_nmea_sentence (front ++ ('$' :: characters ++ ['*', high, low]) ++ (back ++ new :: back'))
        max_sentence_length = .error error) ∨
      parse_nmea_sentence (front ++ ('$' :: characters ++ ['*', high, low]) ++ (back ++ new :: back'))
        max_sentence_length = .ok observation := by
  have hdollar : isspace '$' = false := by decide
  by_cases hnew : isspace new = true
  · have hspaces : ∀ c ∈ back ++ new :: back', isspace c = true :=
      List.forall_mem_append.mpr ⟨hback, List.forall_mem_cons.mpr ⟨hnew, hback'⟩⟩
    exact digits_replaced hfront hspaces hok high low
  left
  rw [Bool.not_eq_true] at hnew
  by_cases hnew_star : new = '*'
  · subst hnew_star
    have hsentence : strip (front ++ ('$' :: characters ++ ['*', high, low]) ++ (back ++ '*' :: back')) =
        '$' :: characters ++ ['*', high, low] ++ back ++ '*' :: [] := by
      simpa using strip_framed hfront hback' hdollar hnew (characters ++ ['*', high, low] ++ back)
    exact short_checksum_refused hsentence (by decide) (by decide)
  · have hsentence : strip (front ++ ('$' :: characters ++ ['*', high, low]) ++ (back ++ new :: back')) =
        '$' :: characters ++ '*' :: (high :: low :: back ++ [new]) := by
      simpa using strip_framed hfront hback' hdollar hnew (characters ++ ['*', high, low] ++ back)
    have hno_star : '*' ∉ high :: low :: back ++ [new] := by
      have hdigits := hstar
      rw [List.mem_cons, List.mem_singleton, not_or] at hdigits
      rw [List.mem_append, List.mem_cons, List.mem_cons, List.mem_singleton]
      rintro ((hhigh | hlow | hmem) | hlast)
      · exact hdigits.1 hhigh
      · exact hdigits.2 hlow
      · exact not_mem_of_spaces hback (by decide) hmem
      · exact hnew_star hlast.symm
    exact short_checksum_refused hsentence hno_star (by simp)

omit [Numerals] [StrUpper] in
/-- The place of a character in a text of two parts. -/
theorem place_in_append {before after left right : List Char} {c : Char} (htext : before ++ c :: after = left ++ right) :
    (∃ rest, left = before ++ c :: rest ∧ after = rest ++ right) ∨
      ∃ rest, before = left ++ rest ∧ right = rest ++ c :: after := by
  rcases List.append_eq_append_iff.mp htext with ⟨rest, hleft, hafter⟩ | ⟨rest, hbefore, hright⟩
  · cases rest with
    | nil => exact .inr ⟨[], by simpa using hleft.symm, by simpa using hafter.symm⟩
    | cons first rest =>
      rw [List.cons_append, List.cons.injEq] at hafter
      obtain ⟨rfl, hafter⟩ := hafter
      exact .inl ⟨rest, hleft, hafter⟩
  · exact .inr ⟨rest, hbefore, hright⟩

omit [Numerals] [StrUpper] in
theorem place_in_cons {before after right : List Char} {c first : Char} (htext : before ++ c :: after = first :: right) :
    (before = [] ∧ c = first ∧ after = right) ∨ ∃ rest, before = first :: rest ∧ right = rest ++ c :: after := by
  cases before with
  | nil =>
    rw [List.nil_append, List.cons.injEq] at htext
    exact .inl ⟨rfl, htext⟩
  | cons other rest =>
    rw [List.cons_append, List.cons.injEq] at htext
    exact .inr ⟨rest, by rw [htext.1], htext.2.symm⟩

/-- A line with a checksum in which one character is replaced is refused, or it says the same. Only where its separator is
replaced in a line of ten fields, the last field may say something else. -/
theorem replaced_character_detected {before after : List Char} {old new : Char} (hother : new ≠ old)
    (hstar : '*' ∈ before ++ old :: after)
    (hok : parse_nmea_sentence (before ++ old :: after) max_sentence_length = .ok observation) :
    (∃ error, parse_nmea_sentence (before ++ new :: after) max_sentence_length = .error error) ∨
      parse_nmea_sentence (before ++ new :: after) max_sentence_length = .ok observation ∨
      SeparatorLost before after old new ∧
        ∃ other, parse_nmea_sentence (before ++ new :: after) max_sentence_length = .ok other ∧
          other.drop_last = observation.drop_last := by
  obtain ⟨front, characters, back, high, low, hparts, hfields⟩ := exists_parts hstar hok
  have hdigits : '*' ∉ [high, low] := by
    rw [List.mem_cons, List.mem_singleton, not_or]
    exact ⟨Ne.symm hparts.high_no_star, Ne.symm hparts.low_no_star⟩
  have hline := hparts.line_eq
  simp only [List.append_assoc, List.cons_append, List.nil_append] at hline
  have hspaces := hparts.front_spaces
  have hback := hparts.back_spaces
  -- The places of the replaced character, from the white space in front to the white space at the end.
  rcases place_in_append hline with ⟨front', hbefore, hafter⟩ | ⟨rest, hbefore, hsentence⟩
  · rw [hbefore, List.forall_mem_append, List.forall_mem_cons] at hspaces
    have hnew : before ++ new :: after = before ++ new :: front' ++ ('$' :: characters ++ ['*', high, low]) ++ back := by
      simp [hafter]
    rw [hnew]
    exact (front_replaced hspaces.1 hspaces.2.2 hback hparts.low_visible hdigits hfields).imp_right .inl
  rcases place_in_cons hsentence.symm with ⟨hrest, hold, hafter⟩ | ⟨rest, rfl, hinner⟩
  · have hnew : before ++ new :: after = front ++ (new :: characters ++ ['*', high, low]) ++ back := by
      simp [hbefore, hrest, hafter]
    rw [hnew]
    exact (dollar_replaced (hold ▸ hother) hspaces hback hparts.low_visible hdigits hfields).imp_right .inl
  rcases place_in_append hinner.symm with ⟨characters', hcharacters, hafter⟩ | ⟨rest, rfl, htail⟩
  · have hnew : before ++ new :: after =
        front ++ ('$' :: (rest ++ new :: characters') ++ ['*', high, low]) ++ back := by
      simp [hbefore, hafter]
    rw [hnew]
    exact .inl (character_replaced hother hspaces hback hparts.low_visible hdigits
      (hcharacters ▸ hparts.checksum_right))
  rcases place_in_cons htail.symm with ⟨hrest, hold, hafter⟩ | ⟨rest, rfl, hdigits_tail⟩
  · have hnew : before ++ new :: after = front ++ ('$' :: characters ++ [new, high, low]) ++ back := by
      simp [hbefore, hrest, hafter]
    have hbefore' : before = front ++ '$' :: characters := by simp [hbefore, hrest]
    rw [hnew, hold, hafter, hbefore']
    exact star_replaced (hold ▸ hother) hspaces hback hparts.low_visible hdigits hfields
  rcases place_in_cons hdigits_tail.symm with ⟨hrest, -, hafter⟩ | ⟨rest, rfl, hlow_tail⟩
  · have hnew : before ++ new :: after = front ++ ('$' :: characters ++ ['*', new, low]) ++ back := by
      simp [hbefore, hrest, hafter]
    rw [hnew]
    exact (digits_replaced hspaces hback hfields new low).imp_right .inl
  rcases place_in_cons hlow_tail.symm with ⟨hrest, -, hafter⟩ | ⟨rest, rfl, hback_tail⟩
  · have hnew : before ++ new :: after = front ++ ('$' :: characters ++ ['*', high, new]) ++ back := by
      simp [hbefore, hrest, hafter]
    rw [hnew]
    exact (digits_replaced hspaces hback hfields high new).imp_right .inl
  · rw [hback_tail, List.forall_mem_append, List.forall_mem_cons] at hback
    have hnew : before ++ new :: after =
        front ++ ('$' :: characters ++ ['*', high, low]) ++ (rest ++ new :: after) := by
      simp [hbefore]
    rw [hnew]
    exact (back_replaced hspaces hback.1 hback.2.2 hdigits hfields).imp_right .inl

end replaced

end lines

section sample

def dated : NmeaObservation := .rmc (some "1") false (some "2") none none none none

theorem parse_dated :
    @parse_nmea_sentence Numerals.ascii StrUpper.ascii "$GPRMC,1,V,,,,,,,2*32".toList 160 = .ok dated := rfl

theorem replaced_time_detected :
    letI := Numerals.ascii
    letI := StrUpper.ascii
    (∃ error, parse_nmea_sentence "$GPRMC,7,V,,,,,,,2*32".toList 160 = .error error) ∨
      parse_nmea_sentence "$GPRMC,7,V,,,,,,,2*32".toList 160 = .ok dated ∨
      SeparatorLost "$GPRMC,".toList ",V,,,,,,,2*32".toList '1' '7' ∧
        ∃ other, parse_nmea_sentence "$GPRMC,7,V,,,,,,,2*32".toList 160 = .ok other ∧
          other.drop_last = dated.drop_last :=
  @replaced_character_detected Numerals.ascii StrUpper.ascii dated 160 "$GPRMC,".toList ",V,,,,,,,2*32".toList '1' '7'
    (by decide) (by decide) parse_dated

/-- Without its separator the checksum becomes part of the date. -/
theorem lost_separator_accepted :
    letI := Numerals.ascii
    letI := StrUpper.ascii
    ¬∀ (before after : List Char) (old new : Char) (max_sentence_length : Int) (observation : NmeaObservation),
      new ≠ old → '*' ∈ before ++ old :: after →
      parse_nmea_sentence (before ++ old :: after) max_sentence_length = .ok observation →
      (∃ error, parse_nmea_sentence (before ++ new :: after) max_sentence_length = .error error) ∨
        parse_nmea_sentence (before ++ new :: after) max_sentence_length = .ok observation := by
  let := Numerals.ascii
  let := StrUpper.ascii
  intro hclaim
  have hnew : parse_nmea_sentence "$GPRMC,1,V,,,,,,,2032".toList 160 =
      .ok (.rmc (some "1") false (some "2032") none none none none) := rfl
  have hreplaced := hclaim "$GPRMC,1,V,,,,,,,2".toList "32".toList '*' '0' 160 dated (by decide) (by decide) parse_dated
  rcases hreplaced with ⟨error, herror⟩ | hsame
  · cases herror.symm.trans hnew
  · have hdate := hsame.symm.trans hnew
    simp [dated] at hdate

end sample

end velvet.gnss_body_adapter
