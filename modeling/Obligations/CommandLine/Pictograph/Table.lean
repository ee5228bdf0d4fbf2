/-! # Tables of pictographs

The names of pictographs: of faces, of people, of nature and things in it, of signs, and of the flags of regions. Each
name has a blank and what it means behind it; the names of regions have the two letters that their flags are made of.
-/

namespace Obligations.CommandLine.Pictograph

/-! ## Faces -/

set_option maxRecDepth 8000 in
def faces : List String :=
  [
    "1st_place_medal 🥇,2nd_place_medal 🥈,3rd_place_medal 🥉,t-rex 🦖,turkey 🦃,abacus 🧮",
    "adhesive_bandage 🩹,aerial_tramway 🚡,airplane_arrival 🛬,airplane_departure 🛫",
    "ambulance 🚑,angry_face 😠,anguished_face 😧,anxious_face_with_sweat 😰",
    "articulated_lorry 🚛,astonished_face 😲,auto_rickshaw 🛺,automobile 🚗,avocado 🥑,axe 🪓",
    "baby_symbol 🚼,bacon 🥓,badger 🦡,bagel 🥯,baggage_claim 🛄,baguette_bread 🥖,bald 🦲",
    "ballet_shoes 🩰,banjo 🪕,basket 🧺,bat 🦇,bathtub 🛁,beaming_face_with_smiling_eyes 😁",
    "bed 🛏,bellhop_bell 🛎,beverage_box 🧃,bicycle 🚲,billed_cap 🧢,blue_square 🟦,bone 🦴",
    "bowl_with_spoon 🥣,boxing_glove 🥊,brain 🧠,brick 🧱,briefs 🩲,broccoli 🥦,broom 🧹",
    "brown_circle 🟤,brown_heart 🤎,brown_square 🟫,bullet_train 🚅,bus 🚌,bus_stop 🚏,butter 🧈",
    "butterfly 🦋,canned_food 🥫,canoe 🛶,carrot 🥕,cat_face_with_tears_of_joy 😹",
    "cat_face_with_wry_smile 😼,chair 🪑,cheese_wedge 🧀,children_crossing 🚸,chopsticks 🥢",
    "cigarette 🚬,clinking_glasses 🥂,clown_face 🤡,coat 🧥,coconut 🥥,cold_face 🥶,compass 🧭",
    "confounded_face 😖,confused_face 😕,construction 🚧,couch_and_lamp 🛋,cowboy_hat_face 🤠",
    "crab 🦀,cricket 🦗,croissant 🥐,crying_cat_face 😿,crying_face 😢,cucumber 🥒,cupcake 🧁",
    "cup_with_straw 🥤,curling_stone 🥌,curly_hair 🦱,customs 🛃,cut_of_meat 🥩,deaf_person 🧏",
    "deer 🦌,delivery_truck 🚚,disappointed_face 😞,diving_mask 🤿,diya_lamp 🪔,dizzy_face 😵",
    "dna 🧬,door 🚪,downcast_face_with_sweat 😓,drooling_face 🤤,drop_of_blood 🩸,drum 🥁",
    "duck 🦆,dumpling 🥟,eagle 🦅,ear_with_hearing_aid 🦻,exploding_head 🤯",
    "expressionless_face 😑,face_blowing_a_kiss 😘,face_savoring_food 😋",
    "face_screaming_in_fear 😱,face_vomiting 🤮,face_with_hand_over_mouth 🤭",
    "face_with_head-bandage 🤕,face_with_medical_mask 😷,face_with_monocle 🧐",
    "face_with_open_mouth 😮,face_with_raised_eyebrow 🤨,face_with_rolling_eyes 🙄",
    "face_with_steam_from_nose 😤,face_with_symbols_on_mouth 🤬,face_with_tears_of_joy 😂",
    "face_with_thermometer 🤒,face_with_tongue 😛,face_without_mouth 😶,falafel 🧆",
    "fearful_face 😨,fire_extinguisher 🧯,firecracker 🧨,fire_engine 🚒,flamingo 🦩,flat_shoe 🥿",
    "flushed_face 😳,flying_disc 🥏,flying_saucer 🛸,foot 🦶,fortune_cookie 🥠,fox_face 🦊",
    "frowning_face_with_open_mouth 😦,garlic 🧄,genie 🧞,giraffe 🦒,glass_of_milk 🥛,gloves 🧤",
    "goal_net 🥅,goggles 🥽,gorilla 🦍,green_circle 🟢,green_salad 🥗,green_square 🟩",
    "grimacing_face 😬,grinning_cat_face 😺,grinning_cat_face_with_smiling_eyes 😸",
    "grinning_face 😀,grinning_face_with_big_eyes 😃,grinning_face_with_smiling_eyes 😄",
    "grinning_face_with_sweat 😅,grinning_squinting_face 😆,guide_dog 🦮,hammer_and_wrench 🛠",
    "handshake 🤝,hear-no-evil_monkey 🙉,hedgehog 🦔,helicopter 🚁,high-speed_train 🚄",
    "hiking_boot 🥾,hindu_temple 🛕,hippopotamus 🦛,horizontal_traffic_light 🚥,hot_face 🥵",
    "hugging_face 🤗,hushed_face 😯,ice 🧊,jigsaw 🧩,kangaroo 🦘,kick_scooter 🛴",
    "kissing_cat_face 😽,kissing_face 😗,kissing_face_with_closed_eyes 😚",
    "kissing_face_with_smiling_eyes 😙,kite 🪁,kiwi_fruit 🥝,lab_coat 🥼,lacrosse 🥍",
    "leafy_green 🥬,left_luggage 🛅,leg 🦵,light_rail 🚈,lion_face 🦁,litter_in_bin_sign 🚮",
    "lizard 🦎,llama 🦙,lobster 🦞,locomotive 🚂,lotion_bottle 🧴,loudly_crying_face 😭",
    "luggage 🧳,lying_face 🤥,magnet 🧲,mango 🥭,manual_wheelchair 🦽,martial_arts_uniform 🥋",
    "mate 🧉,mechanical_arm 🦾,mechanical_leg 🦿,men’s_room 🚹,metro 🚇,microbe 🦠,minibus 🚐",
    "money-mouth_face 🤑,monorail 🚝,moon_cake 🥮,mosquito 🦟,motor_boat 🛥,motor_scooter 🛵",
    "motorized_wheelchair 🦼,motorway 🛣,mountain_cableway 🚠,mountain_railway 🚞",
    "nauseated_face 🤢,nazar_amulet 🧿,nerd_face 🤓,neutral_face 😐,no_bicycles 🚳",
    "no_littering 🚯,no_pedestrians 🚷,no_smoking 🚭,non-potable_water 🚱,oil_drum 🛢",
    "oncoming_automobile 🚘,oncoming_bus 🚍,oncoming_police_car 🚔,oncoming_taxi 🚖",
    "one-piece_swimsuit 🩱,onion 🧅,orange_circle 🟠,orange_heart 🧡,orange_square 🟧",
    "orangutan 🦧,otter 🦦,owl 🦉,oyster 🦪,pancakes 🥞,parrot 🦜,partying_face 🥳",
    "passenger_ship 🛳,passport_control 🛂,peacock 🦚,peanuts 🥜,pensive_face 😔",
    "people_wrestling 🤼,persevering_face 😣,person_fencing 🤺,person_kneeling 🧎",
    "person_standing 🧍,petri_dish 🧫,pie 🥧,pinching_hand 🤏,place_of_worship 🛐",
    "pleading_face 🥺,police_car 🚓,police_car_light 🚨,potable_water 🚰,potato 🥔",
    "pouting_cat_face 😾,pouting_face 😡,pretzel 🥨,probing_cane 🦯,prohibited 🚫",
    "purple_circle 🟣,purple_square 🟪,raccoon 🦝,railway_car 🚃,railway_track 🛤,razor 🪒",
    "ringed_planet 🪐,receipt 🧾,red_envelope 🧧,red_hair 🦰,red_square 🟥,relieved_face 😌",
    "restroom 🚻,rhinoceros 🦏,robot_face 🤖,rocket 🚀,roll_of_paper 🧻",
    "rolling_on_the_floor_laughing 🤣,sad_but_relieved_face 😥,safety_pin 🧷,safety_vest 🦺",
    "salt 🧂,sandwich 🥪,sari 🥻,sauropod 🦕,scarf 🧣,scorpion 🦂,see-no-evil_monkey 🙈",
    "shallow_pan_of_food 🥘,shark 🦈,shield 🛡,ship 🚢,shopping_bags 🛍,shopping_cart 🛒,shorts 🩳",
    "shower 🚿,shrimp 🦐,shushing_face 🤫,skateboard 🛹,skunk 🦨,sled 🛷,sleeping_face 😴",
    "sleepy_face 😪,slightly_frowning_face 🙁,slightly_smiling_face 🙂,sloth 🦥,small_airplane 🛩",
    "smiling_cat_face_with_heart-eyes 😻,smiling_face_with_halo 😇,smiling_face_with_3_hearts 🥰",
    "smiling_face_with_heart-eyes 😍,smiling_face_with_horns 😈",
    "smiling_face_with_smiling_eyes 😊,smiling_face_with_sunglasses 😎,smirking_face 😏",
    "sneezing_face 🤧,soap 🧼,socks 🧦,softball 🥎,speak-no-evil_monkey 🙊,speedboat 🚤,spoon 🥄",
    "sponge 🧽,sport_utility_vehicle 🚙,squid 🦑,squinting_face_with_tongue 😝,star-struck 🤩",
    "station 🚉,stethoscope 🩺,stop_sign 🛑,stuffed_flatbread 🥙,sunglasses 😎,superhero 🦸",
    "supervillain 🦹,suspension_railway 🚟,swan 🦢,takeout_box 🥡,taxi 🚕,teddy_bear 🧸",
    "test_tube 🧪,thinking_face 🤔,thread 🧵,tired_face 😫,toolbox 🧰,toilet 🚽,tooth 🦷",
    "tractor 🚜,train 🚋,tram 🚊,tram_car 🚋,triangular_flag 🚩,trolleybus 🚎,tumbler_glass 🥃",
    "unamused_face 😒,unicorn_face 🦄,upside-down_face 🙃,vertical_traffic_light 🚦,waffle 🧇",
    "water_closet 🚾,weary_cat_face 🙀,weary_face 😩,white_hair 🦳,white_heart 🤍",
    "wilted_flower 🥀,winking_face 😉,winking_face_with_tongue 😜,women’s_room 🚺,woozy_face 🥴",
    "worried_face 😟,yarn 🧶,yawning_face 🥱,yellow_circle 🟡,yellow_square 🟨,yo-yo 🪀",
    "zany_face 🤪,zebra 🦓,zipper-mouth_face 🤐,zombie 🧟,airplane_arriving 🛬,angry 😠",
    "anguished 😧,astonished 😲,car 🚗,red_car 🚗,bath 🛀,bike 🚲,bicyclist 🚴,busstop 🚏",
    "joy_cat 😹,smirk_cat 😼,confounded 😖,confused 😕,cry 😢,truck 🚚,disappointed_relieved 😥",
    "disappointed 😞,do_not_litter 🚯,expressionless 😑,yum 😋,scream 😱,kissing_heart 😘",
    "sweat 😓,face_with_head__bandage 🤕,triumph 😤,mask 😷,no_good 🙅,ok_woman 🙆,open_mouth 😮",
    "cold_sweat 😰,stuck_out_tongue 😛,stuck_out_tongue_closed_eyes 😝",
    "stuck_out_tongue_winking_eye 😜,joy 😂,no_mouth 😶,fearful 😨,flushed 😳,frowning 😦",
    "grimacing 😬,smile_cat 😸,grinning 😀,grin 😁,raising_hand 🙋,hear_no_evil 🙉",
    "bullettrain_side 🚄,bullettrain_front 🚅,traffic_light 🚥,hushed 😯,kissing_cat 😽",
    "kissing 😗,kissing_closed_eyes 😚,kissing_smiling_eyes 😙,sob 😭,mens 🚹",
    "money__mouth_face 🤑,mountain_bicyclist 🚵,no_entry_sign 🚫,non__potable_water 🚱",
    "walking 🚶,pensive 😔,persevere 😣,bow 🙇,raised_hands 🙌,pray 🙏",
    "person_with_pouting_face 🙎,rotating_light 🚨,pouting_cat 😾,rage 😡",
    "put_litter_in_its_place 🚮,blue_car 🚙,relieved 😌,robot 🤖,rowboat 🚣,see_no_evil 🙈",
    "sleeping_accommodation 🛌,sleeping 😴,sleepy 😪,heart_eyes_cat 😻,smiley_cat 😺,innocent 😇",
    "heart_eyes 😍,smiling_imp 😈,smiley 😃,sweat_smile 😅,smile 😄,laughing 😆,satisfied 😆",
    "blush 😊,smirk 😏,smoking 🚬,speak_no_evil 🙊,steam_locomotive 🚂,train2 🚆",
    "triangular_flag_on_post 🚩,unamused 😒,upside__down_face 🙃,wc 🚾,scream_cat 🙀,weary 😩",
    "wink 😉,womens 🚺,worried 😟,zipper__mouth_face 🤐"]

/-! ## Figures -/

set_option maxRecDepth 8000 in
/-- Figures that there are with every tone of skin. -/
def tonedFigures : List String :=
  [
    "mrs._claus 🤶,ok_hand 👌,santa_claus 🎅,adult 🧑,baby 👶,baby_angel 👼",
    "backhand_index_pointing_down 👇,backhand_index_pointing_left 👈",
    "backhand_index_pointing_right 👉,backhand_index_pointing_up 👆,bearded_person 🧔",
    "blond-haired_man 👱‍♂️,blond-haired_person 👱,blond-haired_woman 👱‍♀️,boy 👦",
    "breast-feeding 🤱,bride_with_veil 👰,call_me_hand 🤙,child 🧒,clapping_hands 👏",
    "construction_worker 👷,crossed_fingers 🤞,detective 🕵,ear 👂,elf 🧝,fairy 🧚",
    "flexed_biceps 💪,folded_hands 🙏,girl 👧,guard 💂,hand_with_fingers_splayed 🖐",
    "horse_racing 🏇,index_pointing_up ☝,left-facing_fist 🤛,love-you_gesture 🤟,mage 🧙,man 👨",
    "man_artist 👨‍🎨,man_astronaut 👨‍🚀,man_biking 🚴‍♂️,man_bouncing_ball ⛹️‍♂️",
    "man_bowing 🙇‍♂️,man_cartwheeling 🤸‍♂️,man_climbing 🧗‍♂️,man_construction_worker 👷‍♂️",
    "man_cook 👨‍🍳,man_dancing 🕺,man_detective 🕵️‍♂️,man_elf 🧝‍♂️,man_facepalming 🤦‍♂️",
    "man_factory_worker 👨‍🏭,man_fairy 🧚‍♂️,man_farmer 👨‍🌾,man_firefighter 👨‍🚒",
    "man_frowning 🙍‍♂️,man_gesturing_no 🙅‍♂️,man_gesturing_ok 🙆‍♂️,man_getting_haircut 💇‍♂️",
    "man_getting_massage 💆‍♂️,man_golfing 🏌️‍♂️,man_guard 💂‍♂️,man_health_worker 👨‍⚕️",
    "man_in_lotus_position 🧘‍♂️,man_in_steamy_room 🧖‍♂️,man_in_suit_levitating 🕴",
    "man_in_tuxedo 🤵,man_judge 👨‍⚖️,man_juggling 🤹‍♂️,man_lifting_weights 🏋️‍♂️",
    "man_mage 🧙‍♂️,man_mechanic 👨‍🔧,man_mountain_biking 🚵‍♂️,man_office_worker 👨‍💼",
    "man_pilot 👨‍✈️,man_playing_handball 🤾‍♂️,man_playing_water_polo 🤽‍♂️",
    "man_police_officer 👮‍♂️,man_pouting 🙎‍♂️,man_raising_hand 🙋‍♂️,man_rowing_boat 🚣‍♂️",
    "man_running 🏃‍♂️,man_scientist 👨‍🔬,man_shrugging 🤷‍♂️,man_singer 👨‍🎤",
    "man_student 👨‍🎓,man_surfing 🏄‍♂️,man_swimming 🏊‍♂️,man_teacher 👨‍🏫",
    "man_technologist 👨‍💻,man_tipping_hand 💁‍♂️,man_vampire 🧛‍♂️,man_walking 🚶‍♂️",
    "man_wearing_turban 👳‍♂️,man_with_chinese_cap 👲,mermaid 🧜‍♀️,merman 🧜‍♂️,merperson 🧜",
    "middle_finger 🖕,nail_polish 💅,nose 👃,old_man 👴,old_woman 👵,older_adult 🧓",
    "oncoming_fist 👊,open_hands 👐,palms_up_together 🤲,person_biking 🚴,person_bouncing_ball ⛹",
    "person_bowing 🙇,person_cartwheeling 🤸,person_climbing 🧗,person_facepalming 🤦",
    "person_frowning 🙍,person_gesturing_no 🙅,person_gesturing_ok 🙆,person_getting_haircut 💇",
    "person_getting_massage 💆,person_golfing 🏌,person_in_bed 🛌,person_in_lotus_position 🧘",
    "person_in_steamy_room 🧖,person_juggling 🤹,person_lifting_weights 🏋",
    "person_mountain_biking 🚵,person_playing_handball 🤾,person_playing_water_polo 🤽",
    "person_pouting 🙎,person_raising_hand 🙋,person_rowing_boat 🚣,person_running 🏃",
    "person_shrugging 🤷,person_surfing 🏄,person_swimming 🏊,person_taking_bath 🛀",
    "person_tipping_hand 💁,person_walking 🚶,person_wearing_turban 👳,police_officer 👮",
    "pregnant_woman 🤰,prince 🤴,princess 👸,raised_back_of_hand 🤚,raised_fist ✊",
    "raised_hand ✋,raising_hands 🙌,right-facing_fist 🤜,selfie 🤳,sign_of_the_horns 🤘",
    "snowboarder 🏂,thumbs_down 👎,thumbs_up 👍,vampire 🧛,victory_hand ✌,vulcan_salute 🖖",
    "waving_hand 👋,woman 👩,woman_artist 👩‍🎨,woman_astronaut 👩‍🚀,woman_biking 🚴‍♀️",
    "woman_bouncing_ball ⛹️‍♀️,woman_bowing 🙇‍♀️,woman_cartwheeling 🤸‍♀️,woman_climbing 🧗‍♀️",
    "woman_construction_worker 👷‍♀️,woman_cook 👩‍🍳,woman_dancing 💃,woman_detective 🕵️‍♀️",
    "woman_elf 🧝‍♀️,woman_facepalming 🤦‍♀️,woman_factory_worker 👩‍🏭,woman_fairy 🧚‍♀️",
    "woman_farmer 👩‍🌾,woman_firefighter 👩‍🚒,woman_frowning 🙍‍♀️,woman_gesturing_no 🙅‍♀️",
    "woman_gesturing_ok 🙆‍♀️,woman_getting_haircut 💇‍♀️,woman_getting_massage 💆‍♀️",
    "woman_golfing 🏌️‍♀️,woman_guard 💂‍♀️,woman_health_worker 👩‍⚕️",
    "woman_in_lotus_position 🧘‍♀️,woman_in_steamy_room 🧖‍♀️,woman_judge 👩‍⚖️",
    "woman_juggling 🤹‍♀️,woman_lifting_weights 🏋️‍♀️,woman_mage 🧙‍♀️,woman_mechanic 👩‍🔧",
    "woman_mountain_biking 🚵‍♀️,woman_office_worker 👩‍💼,woman_pilot 👩‍✈️",
    "woman_playing_handball 🤾‍♀️,woman_playing_water_polo 🤽‍♀️,woman_police_officer 👮‍♀️",
    "woman_pouting 🙎‍♀️,woman_raising_hand 🙋‍♀️,woman_rowing_boat 🚣‍♀️,woman_running 🏃‍♀️",
    "woman_scientist 👩‍🔬,woman_shrugging 🤷‍♀️,woman_singer 👩‍🎤,woman_student 👩‍🎓",
    "woman_surfing 🏄‍♀️,woman_swimming 🏊‍♀️,woman_teacher 👩‍🏫,woman_technologist 👩‍💻",
    "woman_tipping_hand 💁‍♀️,woman_vampire 🧛‍♀️,woman_walking 🚶‍♀️,woman_wearing_turban 👳‍♀️",
    "woman_with_headscarf 🧕,writing_hand ✍"]

set_option maxRecDepth 8000 in
/-- Figures made of several pictographs. -/
def figures : List String :=
  [
    "bald_man 👨‍🦲,bald_woman 👩‍🦲,couple_with_heart_man_man 👨‍❤️‍👨",
    "couple_with_heart_woman_man 👩‍❤️‍👨,couple_with_heart_woman_woman 👩‍❤️‍👩",
    "curly-haired_man 👨‍🦱,curly-haired_woman 👩‍🦱,eye_in_speech_bubble 👁️‍🗨️",
    "family_man_boy 👨‍👦,family_man_boy_boy 👨‍👦‍👦,family_man_girl 👨‍👧",
    "family_man_girl_boy 👨‍👧‍👦,family_man_girl_girl 👨‍👧‍👧,family_man_man_boy 👨‍👨‍👦",
    "family_man_man_boy_boy 👨‍👨‍👦‍👦,family_man_man_girl 👨‍👨‍👧",
    "family_man_man_girl_boy 👨‍👨‍👧‍👦,family_man_man_girl_girl 👨‍👨‍👧‍👧",
    "family_man_woman_boy 👨‍👩‍👦,family_man_woman_boy_boy 👨‍👩‍👦‍👦",
    "family_man_woman_girl 👨‍👩‍👧,family_man_woman_girl_boy 👨‍👩‍👧‍👦",
    "family_man_woman_girl_girl 👨‍👩‍👧‍👧,family_woman_boy 👩‍👦,family_woman_boy_boy 👩‍👦‍👦",
    "family_woman_girl 👩‍👧,family_woman_girl_boy 👩‍👧‍👦,family_woman_girl_girl 👩‍👧‍👧",
    "family_woman_woman_boy 👩‍👩‍👦,family_woman_woman_boy_boy 👩‍👩‍👦‍👦",
    "family_woman_woman_girl 👩‍👩‍👧,family_woman_woman_girl_boy 👩‍👩‍👧‍👦",
    "family_woman_woman_girl_girl 👩‍👩‍👧‍👧,kiss_man_man 👨‍❤️‍💋‍👨",
    "kiss_woman_man 👩‍❤️‍💋‍👨,kiss_woman_woman 👩‍❤️‍💋‍👩,man_genie 🧞‍♂️",
    "man_in_manual_wheelchair 👨‍🦽,man_in_motorized_wheelchair 👨‍🦼",
    "man_with_probing_cane 👨‍🦯,man_zombie 🧟‍♂️,men_with_bunny_ears 👯‍♂️,men_wrestling 🤼‍♂️",
    "people_holding_hands 🧑‍🤝‍🧑,pirate_flag 🏴‍☠️,rainbow_flag 🏳️‍🌈,red-haired_man 👨‍🦰",
    "red-haired_woman 👩‍🦰,service_dog 🐕‍🦺,white-haired_man 👨‍🦳,white-haired_woman 👩‍🦳",
    "woman_genie 🧞‍♀️,woman_in_manual_wheelchair 👩‍🦽,woman_in_motorized_wheelchair 👩‍🦼",
    "woman_with_probing_cane 👩‍🦯,woman_zombie 🧟‍♀️,women_with_bunny_ears 👯‍♀️",
    "women_wrestling 🤼‍♀️,light_skin_tone 🏻,medium_light_skin_tone 🏼,medium_skin_tone 🏽",
    "medium_dark_skin_tone 🏾,dark_skin_tone 🏿,emoji_modifier_fitzpatrick_type__1__2 🏻",
    "emoji_modifier_fitzpatrick_type__3 🏼,emoji_modifier_fitzpatrick_type__4 🏽",
    "emoji_modifier_fitzpatrick_type__5 🏾,emoji_modifier_fitzpatrick_type__6 🏿"]

/-! ## Scenes -/

set_option maxRecDepth 8000 in
/-- Weather, plants, animals, food, buildings and things of daily use. -/
def scenes : List String :=
  [
    "atm_sign 🏧,back_arrow 🔙,christmas_tree 🎄,end_arrow 🔚,england 🏴󠁧󠁢󠁥󠁮󠁧󠁿,japan 🗾",
    "japanese_castle 🏯,japanese_dolls 🎎,japanese_post_office 🏣",
    "japanese_symbol_for_beginner 🔰,on!_arrow 🔛,soon_arrow 🔜,scotland 🏴󠁧󠁢󠁳󠁣󠁴󠁿",
    "statue_of_liberty 🗽,top_arrow 🔝,tokyo_tower 🗼,wales 🏴󠁧󠁢󠁷󠁬󠁳󠁿,admission_tickets 🎟",
    "alien 👽,alien_monster 👾,american_football 🏈,amphora 🏺,anger_symbol 💢",
    "angry_face_with_horns 👿,ant 🐜,antenna_bars 📶,artist_palette 🎨,baby_bottle 🍼",
    "baby_chick 🐤,badminton 🏸,balloon 🎈,ballot_box_with_ballot 🗳,banana 🍌,bank 🏦",
    "bar_chart 📊,barber_pole 💈,basketball 🏀,battery 🔋,beach_with_umbrella 🏖,bear_face 🐻",
    "beating_heart 💓,beer_mug 🍺,bell 🔔,bell_with_slash 🔕,bento_box 🍱,bikini 👙,bird 🐦",
    "birthday_cake 🎂,black_flag 🏴,black_heart 🖤,black_square_button 🔲,blossom 🌼,blowfish 🐡",
    "blue_book 📘,blue_circle 🔵,blue_heart 💙,boar 🐗,bomb 💣,bookmark 🔖,bookmark_tabs 📑",
    "books 📚,bottle_with_popping_cork 🍾,bouquet 💐,bow_and_arrow 🏹,bowling 🎳,bread 🍞",
    "bridge_at_night 🌉,briefcase 💼,bright_button 🔆,broken_heart 💔,bug 🐛",
    "building_construction 🏗,burrito 🌯,bust_in_silhouette 👤,busts_in_silhouette 👥,cactus 🌵",
    "calendar 📆,camel 🐫,camera 📷,camera_with_flash 📸,camping 🏕,candle 🕯,candy 🍬",
    "card_file_box 🗃,card_index 📇,card_index_dividers 🗂,carousel_horse 🎠,carp_streamer 🎏",
    "castle 🏰,cat 🐱,cat_face 🐱,chart_decreasing 📉,chart_increasing 📈",
    "chart_increasing_with_yen 💹,chequered_flag 🏁,cherries 🍒,cherry_blossom 🌸,chestnut 🌰",
    "chicken 🐔,chipmunk 🐿,chocolate_bar 🍫,cinema 🎦,circus_tent 🎪,cityscape 🏙",
    "cityscape_at_dusk 🌆,clamp 🗜,clapper_board 🎬,classical_building 🏛,clinking_beer_mugs 🍻",
    "clipboard 📋,clockwise_vertical_arrows 🔃,closed_book 📕",
    "closed_mailbox_with_lowered_flag 📪,closed_mailbox_with_raised_flag 📫,closed_umbrella 🌂",
    "cloud_with_lightning 🌩,cloud_with_rain 🌧,cloud_with_snow 🌨,clutch_bag 👝,cocktail_glass 🍸",
    "collision 💥,computer_disk 💽,computer_mouse 🖱,confetti_ball 🎊,control_knobs 🎛",
    "convenience_store 🏪,cooked_rice 🍚,cookie 🍪,cooking 🍳,counterclockwise_arrows_button 🔄",
    "couple_with_heart 💑,cow 🐮,cow_face 🐮,crayon 🖍,credit_card 💳,crescent_moon 🌙",
    "cricket_game 🏏,crocodile 🐊,crossed_flags 🎌,crown 👑,crystal_ball 🔮,currency_exchange 💱",
    "curry_rice 🍛,custard 🍮,cyclone 🌀,dagger 🗡,dango 🍡,dashing_away 💨,deciduous_tree 🌳",
    "department_store 🏬,derelict_house 🏚,desert 🏜,desert_island 🏝,desktop_computer 🖥",
    "diamond_with_a_dot 💠,dim_button 🔅,direct_hit 🎯,dizzy 💫,dog 🐶,dog_face 🐶",
    "dollar_banknote 💵,dolphin 🐬,dotted_six-pointed_star 🔯,doughnut 🍩,dove 🕊",
    "downwards_button 🔽,dragon 🐉,dragon_face 🐲,dress 👗,droplet 💧,dvd 📀,e-mail 📧",
    "ear_of_corn 🌽,egg 🍳,eggplant 🍆,eight-thirty 🕣,eight_o’clock 🕗,electric_plug 🔌",
    "elephant 🐘,eleven-thirty 🕦,eleven_o’clock 🕚,envelope_with_arrow 📩,euro_banknote 💶",
    "evergreen_tree 🌲,ewe 🐑,eye 👁,eyes 👀,factory 🏭,fallen_leaf 🍂,family 👪,fax_machine 📠",
    "ferris_wheel 🎡,field_hockey 🏑,file_cabinet 🗄,file_folder 📁,film_frames 🎞",
    "film_projector 📽,fire 🔥,fireworks 🎆,first_quarter_moon 🌓,first_quarter_moon_face 🌛",
    "fish 🐟,fish_cake_with_swirl 🍥,fishing_pole 🎣,five-thirty 🕠,five_o’clock 🕔",
    "flashlight 🔦,floppy_disk 💾,flower_playing_cards 🎴,fog 🌫,foggy 🌁,footprints 👣",
    "fork_and_knife 🍴,fork_and_knife_with_plate 🍽,fountain_pen 🖋,four-thirty 🕟",
    "four_leaf_clover 🍀,four_o’clock 🕓,framed_picture 🖼,french_fries 🍟,fried_shrimp 🍤",
    "frog_face 🐸,front-facing_baby_chick 🐥,full_moon 🌕,full_moon_face 🌝,game_die 🎲",
    "gem_stone 💎,ghost 👻,glasses 👓,globe_showing_americas 🌎,globe_showing_asia-australia 🌏",
    "globe_showing_europe-africa 🌍,globe_with_meridians 🌐,glowing_star 🌟,goat 🐐,goblin 👺",
    "graduation_cap 🎓,grapes 🍇,green_apple 🍏,green_book 📗,green_heart 💚,growing_heart 💗",
    "guitar 🎸,hamburger 🍔,hammer 🔨,hamster_face 🐹,handbag 👜,hatching_chick 🐣,headphone 🎧",
    "heart_decoration 💟,heart_with_arrow 💘,heart_with_ribbon 💝,heavy_dollar_sign 💲,herb 🌿",
    "hibiscus 🌺,high-heeled_shoe 👠,hole 🕳,honey_pot 🍯,honeybee 🐝,horse 🐴,horse_face 🐴",
    "hospital 🏥,hot_dog 🌭,hot_pepper 🌶,hotel 🏨,house 🏠,house_with_garden 🏡,houses 🏘",
    "hundred_points 💯,ice_cream 🍨,ice_hockey 🏒,inbox_tray 📥,incoming_envelope 📨",
    "input_latin_letters 🔤,input_latin_lowercase 🔡,input_latin_uppercase 🔠,input_numbers 🔢",
    "input_symbols 🔣,jack-o-lantern 🎃,jeans 👖,joystick 🕹,kaaba 🕋,key 🔑,keycap_10 🔟",
    "kimono 👘,kiss 💋,kiss_mark 💋,kitchen_knife 🔪,koala 🐨,label 🏷,lady_beetle 🐞",
    "laptop_computer 💻,large_blue_diamond 🔷,large_orange_diamond 🔶,last_quarter_moon 🌗",
    "last_quarter_moon_face 🌜,leaf_fluttering_in_wind 🍃,ledger 📒,left_speech_bubble 🗨",
    "lemon 🍋,leopard 🐆,level_slider 🎚,light_bulb 💡,link 🔗,linked_paperclips 🖇,lipstick 💄",
    "locked 🔒,locked_with_key 🔐,locked_with_pen 🔏,lollipop 🍭,loudspeaker 📢,love_hotel 🏩",
    "love_letter 💌,magnifying_glass_tilted_left 🔍,magnifying_glass_tilted_right 🔎",
    "man_and_woman_holding_hands 👫,mantelpiece_clock 🕰,man’s_shoe 👞,map_of_japan 🗾",
    "maple_leaf 🍁,meat_on_bone 🍖,megaphone 📣,melon 🍈,memo 📝,menorah 🕎,microphone 🎤",
    "microscope 🔬,military_medal 🎖,milky_way 🌌,moai 🗿,mobile_phone 📱,mobile_phone_off 📴",
    "mobile_phone_with_arrow 📲,money_bag 💰,money_with_wings 💸,monkey 🐒,monkey_face 🐵",
    "moon_viewing_ceremony 🎑,mosque 🕌,motorcycle 🏍,mount_fuji 🗻,mouse 🐭,mouse_face 🐭",
    "mouth 👄,movie_camera 🎥,mushroom 🍄,musical_keyboard 🎹,musical_note 🎵,musical_notes 🎶",
    "musical_score 🎼,muted_speaker 🔇,name_badge 📛,national_park 🏞,necktie 👔,new_moon 🌑",
    "new_moon_face 🌚,newspaper 📰,night_with_stars 🌃,nine-thirty 🕤,nine_o’clock 🕘",
    "no_mobile_phones 📵,no_one_under_eighteen 🔞,notebook 📓,notebook_with_decorative_cover 📔",
    "nut_and_bolt 🔩,octopus 🐙,oden 🍢,office_building 🏢,ogre 👹,old_key 🗝,om 🕉,one-thirty 🕜",
    "one_o’clock 🕐,open_book 📖,open_file_folder 📂,open_mailbox_with_lowered_flag 📭",
    "open_mailbox_with_raised_flag 📬,optical_disk 💿,orange_book 📙,outbox_tray 📤,ox 🐂",
    "package 📦,page_facing_up 📄,page_with_curl 📃,pager 📟,paintbrush 🖌,palm_tree 🌴",
    "panda_face 🐼,paperclip 📎,party_popper 🎉,paw_prints 🐾,peach 🍑,pear 🍐,pen 🖊,pencil 📝",
    "penguin 🐧,people_with_bunny_ears 👯,performing_arts 🎭,pig 🐷,pig_face 🐷,pig_nose 🐽",
    "pile_of_poo 💩,pill 💊,pine_decoration 🎍,pineapple 🍍,ping_pong 🏓,pistol 🔫,pizza 🍕",
    "poodle 🐩,pool_8_ball 🎱,popcorn 🍿,post_office 🏣,postal_horn 📯,postbox 📮,pot_of_food 🍲",
    "poultry_leg 🍗,pound_banknote 💷,prayer_beads 📿,printer 🖨,purple_heart 💜,purse 👛",
    "pushpin 📌,rabbit 🐰,rabbit_face 🐰,racing_car 🏎,radio 📻,radio_button 🔘,rainbow 🌈,ram 🐏",
    "rat 🐀,red_apple 🍎,red_circle 🔴,red_paper_lantern 🏮,red_triangle_pointed_down 🔻",
    "red_triangle_pointed_up 🔺,reminder_ribbon 🎗,repeat_button 🔁,repeat_single_button 🔂",
    "revolving_hearts 💞,ribbon 🎀,rice_ball 🍙,rice_cracker 🍘,right_anger_bubble 🗯,ring 💍",
    "roasted_sweet_potato 🍠,rolled-up_newspaper 🗞,roller_coaster 🎢,rooster 🐓,rose 🌹",
    "rosette 🏵,round_pushpin 📍,rugby_football 🏉,running_shirt 🎽,running_shoe 👟,sake 🍶",
    "satellite 📡,satellite_antenna 📡,saxophone 🎷,school 🏫,school_backpack 🎒,scroll 📜",
    "seat 💺,seedling 🌱,seven-thirty 🕢,seven_o’clock 🕖,shaved_ice 🍧,sheaf_of_rice 🌾",
    "shooting_star 🌠,shortcake 🍰,shuffle_tracks_button 🔀,six-thirty 🕡,six_o’clock 🕕,skis 🎿",
    "skull 💀,slot_machine 🎰,small_blue_diamond 🔹,small_orange_diamond 🔸,snail 🐌,snake 🐍",
    "snow-capped_mountain 🏔,soft_ice_cream 🍦,spaghetti 🍝,sparkler 🎇,sparkling_heart 💖",
    "speaker_high_volume 🔊,speaker_low_volume 🔈,speaker_medium_volume 🔉,speaking_head 🗣",
    "speech_balloon 💬,spider 🕷,spider_web 🕸,spiral_calendar 🗓,spiral_notepad 🗒,spiral_shell 🐚",
    "sports_medal 🏅,spouting_whale 🐳,stadium 🏟,steaming_bowl 🍜,straight_ruler 📏",
    "strawberry 🍓,studio_microphone 🎙,sun_behind_large_cloud 🌥,sun_behind_rain_cloud 🌦",
    "sun_behind_small_cloud 🌤,sun_with_face 🌞,sunflower 🌻,sunrise 🌅,sunrise_over_mountains 🌄",
    "sunset 🌇,sushi 🍣,sweat_droplets 💦,synagogue 🕍,syringe 💉,t-shirt 👕,taco 🌮",
    "tanabata_tree 🎋,tangerine 🍊,teacup_without_handle 🍵,tear-off_calendar 📆",
    "telephone_receiver 📞,telescope 🔭,television 📺,ten-thirty 🕥,ten_o’clock 🕙,tennis 🎾",
    "thermometer 🌡,thought_balloon 💭,three-thirty 🕞,three_o’clock 🕒,ticket 🎫,tiger 🐯",
    "tiger_face 🐯,tomato 🍅,tongue 👅,top_hat 🎩,tornado 🌪,trackball 🖲,triangular_ruler 📐",
    "trident_emblem 🔱,trophy 🏆,tropical_drink 🍹,tropical_fish 🐠,trumpet 🎺,tulip 🌷",
    "turtle 🐢,twelve-thirty 🕧,twelve_o’clock 🕛,two-hump_camel 🐫,two-thirty 🕝,two_hearts 💕",
    "two_men_holding_hands 👬,two_o’clock 🕑,two_women_holding_hands 👭,unlocked 🔓",
    "upwards_button 🔼,vibration_mode 📳,video_camera 📹,video_game 🎮,videocassette 📼",
    "violin 🎻,volcano 🌋,volleyball 🏐,waning_crescent_moon 🌘,waning_gibbous_moon 🌖",
    "wastebasket 🗑,water_buffalo 🐃,water_wave 🌊,watermelon 🍉,waxing_crescent_moon 🌒",
    "waxing_gibbous_moon 🌔,wedding 💒,whale 🐳,white_flag 🏳,white_flower 💮",
    "white_square_button 🔳,wind_chime 🎐,wind_face 🌬,wine_glass 🍷,wolf_face 🐺,woman’s_boot 👢",
    "woman’s_clothes 👚,woman’s_hat 👒,woman’s_sandal 👡,world_map 🗺,wrapped_gift 🎁,wrench 🔧",
    "yellow_heart 💛,yen_banknote 💴,zzz 💤,space_invader 👾,football 🏈,anger 💢",
    "signal_strength 📶,arrows_counterclockwise 🔄,art 🎨,athletic_shoe 👟,atm 🏧,angel 👼",
    "back 🔙,badminton_racquet_and_shuttlecock 🏸,dollar 💵,euro 💶,pound 💷,yen 💴,barber 💈",
    "bear 🐻,heartbeat 💓,beer 🍺,no_bell 🔕,bento 🍱,8ball 🎱,birthday 🎂,date 📅,flags 🎏",
    "cat2 🐈,chart_with_downwards_trend 📉,chart_with_upwards_trend 📈,chart 💹,mega 📣",
    "checkered_flag 🏁,city_sunset 🌆,clapper 🎬,clap 👏,beers 🍻,clock830 🕣,clock8 🕗",
    "clock1130 🕦,clock11 🕚,clock530 🕠,clock5 🕔,clock430 🕟,clock4 🕓,clock930 🕤,clock9 🕘",
    "clock130 🕜,clock1 🕐,clock730 🕢,clock7 🕖,clock630 🕡,clock6 🕕,clock1030 🕥,clock10 🕙",
    "clock330 🕞,clock3 🕒,clock1230 🕧,clock12 🕛,clock230 🕝,clock2 🕑,arrows_clockwise 🔃",
    "repeat 🔁,repeat_one 🔂,closed_lock_with_key 🔐,mailbox_closed 📪,mailbox 📫",
    "cloud_with_tornado 🌪,cocktail 🍸,boom 💥,compression 🗜,rice 🍚,cow2 🐄",
    "cricket_bat_and_ball 🏏,curry 🍛,dagger_knife 🗡,dancer 💃,dark_sunglasses 🕶,dash 💨",
    "derelict_house_building 🏚,diamond_shape_with_a_dot_inside 💠,dart 🎯,dog2 🐕,flipper 🐬",
    "dove_of_peace 🕊,small_red_triangle_down 🔻,arrow_down_small 🔽,dromedary_camel 🐪",
    "e__mail 📧,corn 🌽,ear_of_rice 🌾,earth_americas 🌎,earth_asia 🌏,earth_africa 🌍,bulb 💡",
    "end 🔚,european_castle 🏰,european_post_office 🏤,eyeglasses 👓,massage 💆,santa 🎅,fax 📠",
    "field_hockey_stick_and_ball 🏑,first_quarter_moon_with_face 🌛,fish_cake 🍥",
    "fishing_pole_and_fish 🎣,facepunch 👊,punch 👊,muscle 💪,frame_with_picture 🖼,fries 🍟",
    "frog 🐸,hatched_chick 🐥,full_moon_with_face 🌝,gem 💎,star2 🌟,golfer 🏌,mortar_board 🎓",
    "heartpulse 💗,guardsman 💂,haircut 💇,hamster 🐹,headphones 🎧,cupid 💘,gift_heart 💝",
    "high_heel 👠,high_brightness 🔆,hocho 🔪,knife 🔪,bee 🐝,racehorse 🐎,house_buildings 🏘",
    "100 💯,ice_hockey_stick_and_puck 🏒,imp 👿,information_desk_person 💁,capital_abcd 🔠",
    "abc 🔤,abcd 🔡,1234 🔢,symbols 🔣,izakaya_lantern 🏮,lantern 🏮,jack_o_lantern 🎃,dolls 🎎",
    "japanese_goblin 👺,japanese_ogre 👹,beginner 🔰,ten 🔟,couplekiss 💏,beetle 🐞",
    "large_blue_circle 🔵,last_quarter_moon_with_face 🌜,leaves 🍃,mag 🔍,lock 🔒",
    "lock_with_ink_pen 🔏,low_brightness 🔅,lower_left_ballpoint_pen 🖊,lower_left_crayon 🖍",
    "lower_left_fountain_pen 🖋,lower_left_paintbrush 🖌,couple 👫",
    "man_in_business_suit_levitating 🕴,man_with_gua_pi_mao 👲,man_with_turban 👳,mans_shoe 👞",
    "shoe 👞,menorah_with_nine_branches 🕎,minidisc 💽,iphone 📱,calling 📲,moneybag 💰",
    "rice_scene 🎑,mouse2 🐁,lips 👄,moyai 🗿,notes 🎶,nail_care 💅,new_moon_with_face 🌚",
    "underage 🔞,office 🏢,older_man 👴,older_woman 👵,om_symbol 🕉,on 🔛,book 📖,unlock 🔓",
    "mailbox_with_no_mail 📭,mailbox_with_mail 📬,cd 💿,tada 🎉,feet 🐾",
    "person_with_blond_hair 👱,computer 💻,pig2 🐖,hankey 💩,poop 💩,shit 💩,bamboo 🎍,gun 🔫",
    "cop 👮,stew 🍲,pouch 👝,rabbit2 🐇,racing_motorcycle 🏍,raised_hand_with_fingers_splayed 🖐",
    "raised_hand_with_part_between_middle_and_ring_fingers 🖖,apple 🍎",
    "reversed_hand_with_middle_finger_extended 🖕,mag_right 🔎,sweet_potato 🍠",
    "rolled__up_newspaper 🗞,runner 🏃,running 🏃,running_shirt_with_sash 🎽,school_satchel 🎒",
    "sheep 🐑,stars 🌠,cake 🍰,six_pointed_star 🔯,ski 🎿,sleuth_or_spy 🕵,snow_capped_mountain 🏔",
    "icecream 🍦,soon 🔜,speaker 🔈,mute 🔇,sound 🔉,loud_sound 🔊,speaking_head_in_silhouette 🗣",
    "spiral_calendar_pad 🗓,spiral_note_pad 🗒,shell 🐚,sweat_drops 💦,ramen 🍜,city_sunrise 🌇",
    "surfer 🏄,swimmer 🏊,shirt 👕,tshirt 👕,table_tennis_paddle_and_ball 🏓,tea 🍵,tv 📺",
    "three_button_mouse 🖱,+1 👍,thumbsup 👍,__1 👎,-1 👎,thumbsdown 👎,tiger2 🐅,tophat 🎩",
    "top 🔝,trident 🔱,twisted_rightwards_arrows 🔀,small_red_triangle 🔺,arrow_up_small 🔼",
    "vhs 📼,ocean 🌊,waving_black_flag 🏴,wave 👋,waving_white_flag 🏳,moon 🌔,weight_lifter 🏋",
    "whale2 🐋,point_down 👇,point_left 👈,point_right 👉,white_sun_behind_cloud 🌥",
    "white_sun_behind_cloud_with_rain 🌦,white_sun_with_small_cloud 🌤,point_up_2 👆",
    "wind_blowing_face 🌬,wolf 🐺,dancers 👯,boot 👢,womans_clothes 👚,womans_hat 👒,sandal 👡",
    "gift 🎁"]

/-! ## Signs -/

set_option maxRecDepth 8000 in
/-- Signs: marks, arrows, letters and digits. -/
def signs : List String :=
  [
    "ab_button_(blood_type) 🆎,a_button_(blood_type) 🅰,aquarius ♒,aries ♈",
    "b_button_(blood_type) 🅱,cl_button 🆑,cool_button 🆒,cancer ♋,capricorn ♑,free_button 🆓",
    "gemini ♊,id_button 🆔,japanese_acceptable_button 🉑,japanese_application_button 🈸",
    "japanese_bargain_button 🉐,japanese_congratulations_button ㊗,japanese_discount_button 🈹",
    "japanese_free_of_charge_button 🈚,japanese_here_button 🈁,japanese_monthly_amount_button 🈷",
    "japanese_no_vacancy_button 🈵,japanese_not_free_of_charge_button 🈶",
    "japanese_open_for_business_button 🈺,japanese_passing_grade_button 🈴",
    "japanese_prohibited_button 🈲,japanese_reserved_button 🈯,japanese_secret_button ㊙",
    "japanese_service_charge_button 🈂,japanese_vacancy_button 🈳,leo ♌,libra ♎,new_button 🆕",
    "ng_button 🆖,ok_button 🆗,o_button_(blood_type) 🅾,ophiuchus ⛎,p_button 🅿,pisces ♓",
    "sos_button 🆘,sagittarius ♐,scorpio ♏,taurus ♉,up!_button 🆙,vs_button 🆚,virgo ♍",
    "airplane ✈,alarm_clock ⏰,alembic ⚗,anchor ⚓,atom_symbol ⚛,balance_scale ⚖",
    "ballot_box_with_check ☑,baseball ⚾,biohazard ☣,black_circle ⚫,black_large_square ⬛",
    "black_medium-small_square ◾,black_medium_square ◼,black_nib ✒,black_small_square ▪",
    "chains ⛓,chess_pawn ♟,church ⛪,circled_m Ⓜ,cloud ☁,cloud_with_lightning_and_rain ⛈",
    "club_suit ♣,coffin ⚰,comet ☄,copyright ©,cross_mark ❌,cross_mark_button ❎",
    "crossed_swords ⚔,curly_loop ➰,diamond_suit ♦,double_curly_loop ➿",
    "double_exclamation_mark ‼,down-left_arrow ↙,down-right_arrow ↘,down_arrow ⬇",
    "eight-pointed_star ✴,eight-spoked_asterisk ✳,eject_button ⏏,envelope ✉,exclamation_mark ❗",
    "exclamation_question_mark ⁉,fast-forward_button ⏩,fast_down_button ⏬",
    "fast_reverse_button ⏪,fast_up_button ⏫,female_sign ♀,ferry ⛴,flag_in_hole ⛳",
    "fleur-de-lis ⚜,fountain ⛲,frowning_face ☹,fuel_pump ⛽,funeral_urn ⚱,gear ⚙",
    "hammer_and_pick ⚒,heart_suit ♥,heavy_check_mark ✔,heavy_division_sign ➗",
    "heavy_heart_exclamation ❣,heavy_large_circle ⭕,heavy_minus_sign ➖",
    "heavy_multiplication_x ✖,heavy_plus_sign ➕,high_voltage ⚡,hot_beverage ☕,hot_springs ♨",
    "hourglass_done ⌛,hourglass_not_done ⏳,ice_skate ⛸,infinity ♾,information ℹ,joker 🃏",
    "keyboard ⌨,keycap_# #️⃣,keycap_* *️⃣,keycap_0 0️⃣,keycap_1 1️⃣,keycap_2 2️⃣,keycap_3 3️⃣",
    "keycap_4 4️⃣,keycap_5 5️⃣,keycap_6 6️⃣,keycap_7 7️⃣,keycap_8 8️⃣,keycap_9 9️⃣",
    "last_track_button ⏮,latin_cross ✝,left-right_arrow ↔,left_arrow ⬅",
    "left_arrow_curving_right ↪,mahjong_red_dragon 🀄,male_sign ♂,medical_symbol ⚕,mountain ⛰",
    "next_track_button ⏭,no_entry ⛔,orthodox_cross ☦,part_alternation_mark 〽,pause_button ⏸",
    "peace_symbol ☮,pick ⛏,play_button ▶,play_or_pause_button ⏯,question_mark ❓,radioactive ☢",
    "record_button ⏺,recycling_symbol ♻,red_heart ❤,registered ®,rescue_worker’s_helmet ⛑",
    "reverse_button ◀,right_arrow ➡,right_arrow_curving_down ⤵,right_arrow_curving_left ↩",
    "right_arrow_curving_up ⤴,sailboat ⛵,scissors ✂,shamrock ☘,shinto_shrine ⛩,skier ⛷",
    "skull_and_crossbones ☠,smiling_face ☺,snowflake ❄,snowman ☃,snowman_without_snow ⛄",
    "soccer_ball ⚽,spade_suit ♠,sparkle ❇,sparkles ✨,star_and_crescent ☪,star_of_david ✡",
    "stop_button ⏹,stopwatch ⏱,sun ☀,sun_behind_cloud ⛅,telephone ☎,tent ⛺,timer_clock ⏲",
    "trade_mark ™,umbrella ☂,umbrella_on_ground ⛱,umbrella_with_rain_drops ☔,up-down_arrow ↕",
    "up-left_arrow ↖,up-right_arrow ↗,up_arrow ⬆,warning ⚠,watch ⌚,wavy_dash 〰",
    "wheel_of_dharma ☸,wheelchair_symbol ♿,white_circle ⚪,white_exclamation_mark ❕",
    "white_heavy_check_mark ✅,white_large_square ⬜,white_medium-small_square ◽",
    "white_medium_square ◻,white_medium_star ⭐,white_question_mark ❔,white_small_square ▫",
    "yin_yang ☯,keycap_asterisk *⃣,keycap_digit_eight 8⃣,keycap_digit_five 5⃣",
    "keycap_digit_four 4⃣,keycap_digit_nine 9⃣,keycap_digit_one 1⃣,keycap_digit_seven 7⃣",
    "keycap_digit_six 6⃣,keycap_digit_three 3⃣,keycap_digit_two 2⃣,keycap_digit_zero 0⃣",
    "keycap_number_sign #⃣,regional_indicator_symbol_letter_a 🇦",
    "regional_indicator_symbol_letter_b 🇧,regional_indicator_symbol_letter_c 🇨",
    "regional_indicator_symbol_letter_d 🇩,regional_indicator_symbol_letter_e 🇪",
    "regional_indicator_symbol_letter_f 🇫,regional_indicator_symbol_letter_g 🇬",
    "regional_indicator_symbol_letter_h 🇭,regional_indicator_symbol_letter_i 🇮",
    "regional_indicator_symbol_letter_j 🇯,regional_indicator_symbol_letter_k 🇰",
    "regional_indicator_symbol_letter_l 🇱,regional_indicator_symbol_letter_m 🇲",
    "regional_indicator_symbol_letter_n 🇳,regional_indicator_symbol_letter_o 🇴",
    "regional_indicator_symbol_letter_p 🇵,regional_indicator_symbol_letter_q 🇶",
    "regional_indicator_symbol_letter_r 🇷,regional_indicator_symbol_letter_s 🇸",
    "regional_indicator_symbol_letter_t 🇹,regional_indicator_symbol_letter_u 🇺",
    "regional_indicator_symbol_letter_v 🇻,regional_indicator_symbol_letter_w 🇼",
    "regional_indicator_symbol_letter_x 🇽,regional_indicator_symbol_letter_y 🇾",
    "regional_indicator_symbol_letter_z 🇿,arrow_heading_down ⤵,arrow_heading_up ⤴",
    "biohazard_sign ☣,black_circle_for_record ⏺,clubs ♣,diamonds ♦,arrow_double_down ⏬,hearts ♥",
    "rewind ⏪,black_left__pointing_double_triangle_with_vertical_bar ⏮,arrow_backward ◀",
    "black_medium_small_square ◾,question ❓,fast_forward ⏩",
    "black_right__pointing_double_triangle_with_vertical_bar ⏭,arrow_forward ▶",
    "black_right__pointing_triangle_with_double_vertical_bar ⏯,arrow_right ➡,spades ♠",
    "black_square_for_stop ⏹,sunny ☀,phone ☎,recycle ♻,arrow_double_up ⏫,accept 🉑",
    "ideograph_advantage 🉐,congratulations ㊗,secret ㊙,m Ⓜ,x ❌,loop ➿,bangbang ‼",
    "double_vertical_bar ⏸,arrow_down ⬇,eight_pointed_black_star ✴,eight_spoked_asterisk ✳",
    "eject_symbol ⏏,email ✉,interrobang ⁉,golf ⛳,fleur__de__lis ⚜,fuelpump ⛽,heart ❤",
    "exclamation ❗,heavy_exclamation_mark ❗,heavy_heart_exclamation_mark_ornament ❣,o ⭕",
    "helm_symbol ⎈,helmet_with_white_cross ⛑,zap ⚡,coffee ☕,hotsprings ♨,hourglass ⌛",
    "hourglass_flowing_sand ⏳,information_source ℹ,zero 0️⃣,one 1️⃣,two 2️⃣,three 3️⃣,four 4️⃣",
    "five 5️⃣,six 6️⃣,seven 7️⃣,eight 8️⃣,nine 9️⃣,left_right_arrow ↔",
    "leftwards_arrow_with_hook ↩,arrow_left ⬅,mahjong 🀄,ab 🆎,negative_squared_cross_mark ❎",
    "a 🅰,b 🅱,o2 🅾,parking 🅿,arrow_upper_right ↗,arrow_upper_left ↖,pencil2 ✏,person_with_ball ⛹",
    "black_joker 🃏,radioactive_sign ☢,fist ✊,hand ✋,arrow_right_hook ↪,boat ⛵,scales ⚖",
    "scorpius ♏,soccer ⚽,arrow_lower_right ↘,arrow_lower_left ↙,u5272 🈹,u5408 🈴,u55b6 🈺",
    "u6307 🈯,u6708 🈷,u6709 🈶,u6e80 🈵,u7121 🈚,u7533 🈸,u7981 🈲,u7a7a 🈳,cl 🆑,cool 🆒",
    "free 🆓,id 🆔,koko 🈁,sa 🈂,new 🆕,ng 🆖,ok 🆗,sos 🆘,up 🆙,vs 🆚,partly_sunny ⛅",
    "thunder_cloud_and_rain ⛈,tm ™,arrow_up_down ↕,arrow_up ⬆,v ✌,wheelchair ♿",
    "grey_exclamation ❕,white_frowning_face ☹,white_check_mark ✅,white_medium_small_square ◽",
    "star ⭐,grey_question ❔,relaxed ☺,point_up ☝,regional_indicator_a 🇦,regional_indicator_b 🇧",
    "regional_indicator_c 🇨,regional_indicator_d 🇩,regional_indicator_e 🇪,regional_indicator_f 🇫",
    "regional_indicator_g 🇬,regional_indicator_h 🇭,regional_indicator_i 🇮,regional_indicator_j 🇯",
    "regional_indicator_k 🇰,regional_indicator_l 🇱,regional_indicator_m 🇲,regional_indicator_n 🇳",
    "regional_indicator_o 🇴,regional_indicator_p 🇵,regional_indicator_q 🇶,regional_indicator_r 🇷",
    "regional_indicator_s 🇸,regional_indicator_t 🇹,regional_indicator_u 🇺,regional_indicator_v 🇻",
    "regional_indicator_w 🇼,regional_indicator_x 🇽,regional_indicator_y 🇾,regional_indicator_z 🇿"]

/-! ## Flags of regions -/

set_option maxRecDepth 8000 in
/-- Regions, the flags of which are named with and without words that say that they are flags. -/
def regions : List String :=
  [
    "afghanistan af,albania al,algeria dz,american_samoa as,andorra ad,angola ao,anguilla ai",
    "antarctica aq,antigua_&_barbuda ag,argentina ar,armenia am,aruba aw,ascension_island ac",
    "australia au,austria at,azerbaijan az,bahamas bs,bahrain bh,bangladesh bd,barbados bb",
    "belarus by,belgium be,belize bz,benin bj,bermuda bm,bhutan bt,bolivia bo",
    "bosnia_&_herzegovina ba,botswana bw,bouvet_island bv,brazil br",
    "british_indian_ocean_territory io,british_virgin_islands vg,brunei bn,bulgaria bg",
    "burkina_faso bf,burundi bi,cambodia kh,cameroon cm,canada ca,canary_islands ic",
    "cape_verde cv,caribbean_netherlands bq,cayman_islands ky,central_african_republic cf",
    "ceuta_&_melilla ea,chad td,chile cl,china cn,christmas_island cx,clipperton_island cp",
    "colombia co,comoros km,cook_islands ck,costa_rica cr,croatia hr,cuba cu,curaçao cw",
    "cyprus cy,côte_d’ivoire ci,denmark dk,diego_garcia dg,djibouti dj,dominica dm",
    "dominican_republic do,ecuador ec,egypt eg,el_salvador sv,equatorial_guinea gq,eritrea er",
    "estonia ee,ethiopia et,european_union eu,falkland_islands fk,faroe_islands fo,fiji fj",
    "finland fi,france fr,french_guiana gf,french_polynesia pf,french_southern_territories tf",
    "gabon ga,gambia gm,georgia ge,germany de,ghana gh,gibraltar gi,greece gr,greenland gl",
    "grenada gd,guadeloupe gp,guam gu,guatemala gt,guernsey gg,guinea gn,guyana gy,haiti ht",
    "heard_&_mcdonald_islands hm,honduras hn,hungary hu,iceland is,india in,indonesia id,iran ir",
    "iraq iq,ireland ie,isle_of_man im,israel il,italy it,jamaica jm,jersey je,jordan jo",
    "kazakhstan kz,kenya ke,kiribati ki,kosovo xk,kuwait kw,kyrgyzstan kg,laos la,latvia lv",
    "lebanon lb,lesotho ls,liberia lr,libya ly,liechtenstein li,lithuania lt,luxembourg lu",
    "macedonia mk,madagascar mg,malawi mw,malaysia my,maldives mv,mali ml,malta mt",
    "marshall_islands mh,martinique mq,mauritania mr,mauritius mu,mayotte yt,mexico mx",
    "micronesia fm,moldova md,monaco mc,mongolia mn,montenegro me,montserrat ms,morocco ma",
    "mozambique mz,namibia na,nauru nr,nepal np,netherlands nl,new_caledonia nc,new_zealand nz",
    "nicaragua ni,niger ne,nigeria ng,niue nu,norfolk_island nf,north_korea kp",
    "northern_mariana_islands mp,norway no,oman om,pakistan pk,palau pw",
    "palestinian_territories ps,panama pa,papua_new_guinea pg,paraguay py,peru pe,philippines ph",
    "pitcairn_islands pn,poland pl,portugal pt,puerto_rico pr,qatar qa,romania ro,russia ru",
    "rwanda rw,réunion re,samoa ws,san_marino sm,saudi_arabia sa,senegal sn,serbia rs",
    "seychelles sc,sierra_leone sl,singapore sg,sint_maarten sx,slovakia sk,slovenia si",
    "solomon_islands sb,somalia so,south_africa za,south_georgia_&_south_sandwich_islands gs",
    "south_korea kr,south_sudan ss,spain es,sri_lanka lk,st._barthélemy bl,st._helena sh",
    "st._kitts_&_nevis kn,st._lucia lc,st._martin mf,st._pierre_&_miquelon pm",
    "st._vincent_&_grenadines vc,sudan sd,suriname sr,svalbard_&_jan_mayen sj,swaziland sz",
    "sweden se,switzerland ch,syria sy,são_tomé_&_príncipe st,taiwan tw,tajikistan tj",
    "tanzania tz,thailand th,togo tg,tokelau tk,tonga to,trinidad_&_tobago tt",
    "tristan_da_cunha ta,tunisia tn,turkmenistan tm,turks_&_caicos_islands tc,tuvalu tv",
    "u.s._outlying_islands um,u.s._virgin_islands vi,uganda ug,ukraine ua",
    "united_arab_emirates ae,united_kingdom gb,united_states us,uruguay uy,uzbekistan uz",
    "vanuatu vu,vatican_city va,venezuela ve,vietnam vn,wallis_&_futuna wf,western_sahara eh",
    "yemen ye,zambia zm,zimbabwe zw,åland_islands ax"]

set_option maxRecDepth 8000 in
def flagNames : List String :=
  [
    "cocos_(keeling)_islands cc,congo_-_brazzaville cg,congo_-_kinshasa cd,czechia cz",
    "guinea-bissau gw,hong_kong_sar_china hk,macau_sar_china mo,myanmar_(burma) mm",
    "timor-leste tl,united_nations un,flag_for_cocos__islands cc",
    "flag_for_congo____brazzaville cg,flag_for_congo____kinshasa cd,flag_for_czech_republic cz",
    "flag_for_guinea__bissau gw,flag_for_hong_kong hk,flag_for_japan jp,flag_for_macau mo",
    "flag_for_myanmar mm,flag_for_timor__leste tl,flag_for_turkey tr"]

end Obligations.CommandLine.Pictograph
