/-
Names of pictographs. A row has the numbers of the code points of a
pictograph and the names that mean it, between spaces.
-/
import Marginalia.Assoc

namespace Marginalia.Emoji

/-- Rows of names, part 1 of 4. -/
def rowsA : List (List Nat × String) :=
  [ ([0x1F947], "1st_place_medal"), ([0x1F948], "2nd_place_medal"),
    ([0x1F949], "3rd_place_medal"), ([0x1F18E], "ab_button_(blood_type) ab"),
    ([0x1F3E7], "atm_sign atm"), ([0x1F170], "a_button_(blood_type) a"),
    ([0x1F1E6, 0x1F1EB], "afghanistan flag_for_afghanistan"),
    ([0x1F1E6, 0x1F1F1], "albania flag_for_albania"),
    ([0x1F1E9, 0x1F1FF], "algeria flag_for_algeria"),
    ([0x1F1E6, 0x1F1F8], "american_samoa flag_for_american_samoa"),
    ([0x1F1E6, 0x1F1E9], "andorra flag_for_andorra"),
    ([0x1F1E6, 0x1F1F4], "angola flag_for_angola"),
    ([0x1F1E6, 0x1F1EE], "anguilla flag_for_anguilla"),
    ([0x1F1E6, 0x1F1F6], "antarctica flag_for_antarctica"),
    ([0x1F1E6, 0x1F1EC], "antigua_&_barbuda flag_for_antigua_&_barbuda"),
    ([0x2652], "aquarius"),
    ([0x1F1E6, 0x1F1F7], "argentina flag_for_argentina"), ([0x2648], "aries"),
    ([0x1F1E6, 0x1F1F2], "armenia flag_for_armenia"),
    ([0x1F1E6, 0x1F1FC], "aruba flag_for_aruba"),
    ([0x1F1E6, 0x1F1E8], "ascension_island flag_for_ascension_island"),
    ([0x1F1E6, 0x1F1FA], "australia flag_for_australia"),
    ([0x1F1E6, 0x1F1F9], "austria flag_for_austria"),
    ([0x1F1E6, 0x1F1FF], "azerbaijan flag_for_azerbaijan"),
    ([0x1F519], "back_arrow back"), ([0x1F171], "b_button_(blood_type) b"),
    ([0x1F1E7, 0x1F1F8], "bahamas flag_for_bahamas"),
    ([0x1F1E7, 0x1F1ED], "bahrain flag_for_bahrain"),
    ([0x1F1E7, 0x1F1E9], "bangladesh flag_for_bangladesh"),
    ([0x1F1E7, 0x1F1E7], "barbados flag_for_barbados"),
    ([0x1F1E7, 0x1F1FE], "belarus flag_for_belarus"),
    ([0x1F1E7, 0x1F1EA], "belgium flag_for_belgium"),
    ([0x1F1E7, 0x1F1FF], "belize flag_for_belize"),
    ([0x1F1E7, 0x1F1EF], "benin flag_for_benin"),
    ([0x1F1E7, 0x1F1F2], "bermuda flag_for_bermuda"),
    ([0x1F1E7, 0x1F1F9], "bhutan flag_for_bhutan"),
    ([0x1F1E7, 0x1F1F4], "bolivia flag_for_bolivia"),
    ([0x1F1E7, 0x1F1E6], "bosnia_&_herzegovina flag_for_bosnia_&_herzegovina"),
    ([0x1F1E7, 0x1F1FC], "botswana flag_for_botswana"),
    ([0x1F1E7, 0x1F1FB], "bouvet_island flag_for_bouvet_island"),
    ([0x1F1E7, 0x1F1F7], "brazil flag_for_brazil"),
    ([0x1F1EE, 0x1F1F4], "british_indian_ocean_territory"),
    ([0x1F1EE, 0x1F1F4], "flag_for_british_indian_ocean_territory"),
    ([0x1F1FB, 0x1F1EC],
      "british_virgin_islands flag_for_british_virgin_islands"),
    ([0x1F1E7, 0x1F1F3], "brunei flag_for_brunei"),
    ([0x1F1E7, 0x1F1EC], "bulgaria flag_for_bulgaria"),
    ([0x1F1E7, 0x1F1EB], "burkina_faso flag_for_burkina_faso"),
    ([0x1F1E7, 0x1F1EE], "burundi flag_for_burundi"),
    ([0x1F191], "cl_button cl"), ([0x1F192], "cool_button cool"),
    ([0x1F1F0, 0x1F1ED], "cambodia flag_for_cambodia"),
    ([0x1F1E8, 0x1F1F2], "cameroon flag_for_cameroon"),
    ([0x1F1E8, 0x1F1E6], "canada flag_for_canada"),
    ([0x1F1EE, 0x1F1E8], "canary_islands flag_for_canary_islands"),
    ([0x264B], "cancer"),
    ([0x1F1E8, 0x1F1FB], "cape_verde flag_for_cape_verde"),
    ([0x2651], "capricorn"),
    ([0x1F1E7, 0x1F1F6],
      "caribbean_netherlands flag_for_caribbean_netherlands"),
    ([0x1F1F0, 0x1F1FE], "cayman_islands flag_for_cayman_islands"),
    ([0x1F1E8, 0x1F1EB],
      "central_african_republic flag_for_central_african_republic"),
    ([0x1F1EA, 0x1F1E6], "ceuta_&_melilla flag_for_ceuta_&_melilla"),
    ([0x1F1F9, 0x1F1E9], "chad flag_for_chad"),
    ([0x1F1E8, 0x1F1F1], "chile flag_for_chile"),
    ([0x1F1E8, 0x1F1F3], "china flag_for_china"),
    ([0x1F1E8, 0x1F1FD], "christmas_island flag_for_christmas_island"),
    ([0x1F384], "christmas_tree"),
    ([0x1F1E8, 0x1F1F5], "clipperton_island flag_for_clipperton_island"),
    ([0x1F1E8, 0x1F1E8], "cocos_(keeling)_islands flag_for_cocos__islands"),
    ([0x1F1E8, 0x1F1F4], "colombia flag_for_colombia"),
    ([0x1F1F0, 0x1F1F2], "comoros flag_for_comoros"),
    ([0x1F1E8, 0x1F1EC], "congo_-_brazzaville flag_for_congo____brazzaville"),
    ([0x1F1E8, 0x1F1E9], "congo_-_kinshasa flag_for_congo____kinshasa"),
    ([0x1F1E8, 0x1F1F0], "cook_islands flag_for_cook_islands"),
    ([0x1F1E8, 0x1F1F7], "costa_rica flag_for_costa_rica"),
    ([0x1F1ED, 0x1F1F7], "croatia flag_for_croatia"),
    ([0x1F1E8, 0x1F1FA], "cuba flag_for_cuba"),
    ([0x1F1E8, 0x1F1FC], "curaçao flag_for_curaçao"),
    ([0x1F1E8, 0x1F1FE], "cyprus flag_for_cyprus"),
    ([0x1F1E8, 0x1F1FF], "czechia flag_for_czech_republic"),
    ([0x1F1E8, 0x1F1EE], "côte_d’ivoire flag_for_côte_d’ivoire"),
    ([0x1F1E9, 0x1F1F0], "denmark flag_for_denmark"),
    ([0x1F1E9, 0x1F1EC], "diego_garcia flag_for_diego_garcia"),
    ([0x1F1E9, 0x1F1EF], "djibouti flag_for_djibouti"),
    ([0x1F1E9, 0x1F1F2], "dominica flag_for_dominica"),
    ([0x1F1E9, 0x1F1F4], "dominican_republic flag_for_dominican_republic"),
    ([0x1F51A], "end_arrow end"),
    ([0x1F1EA, 0x1F1E8], "ecuador flag_for_ecuador"),
    ([0x1F1EA, 0x1F1EC], "egypt flag_for_egypt"),
    ([0x1F1F8, 0x1F1FB], "el_salvador flag_for_el_salvador"),
    ([0x1F3F4, 0xE0067, 0xE0062, 0xE0065, 0xE006E, 0xE0067, 0xE007F],
      "england"),
    ([0x1F1EC, 0x1F1F6], "equatorial_guinea flag_for_equatorial_guinea"),
    ([0x1F1EA, 0x1F1F7], "eritrea flag_for_eritrea"),
    ([0x1F1EA, 0x1F1EA], "estonia flag_for_estonia"),
    ([0x1F1EA, 0x1F1F9], "ethiopia flag_for_ethiopia"),
    ([0x1F1EA, 0x1F1FA], "european_union flag_for_european_union"),
    ([0x1F193], "free_button free"),
    ([0x1F1EB, 0x1F1F0], "falkland_islands flag_for_falkland_islands"),
    ([0x1F1EB, 0x1F1F4], "faroe_islands flag_for_faroe_islands"),
    ([0x1F1EB, 0x1F1EF], "fiji flag_for_fiji"),
    ([0x1F1EB, 0x1F1EE], "finland flag_for_finland"),
    ([0x1F1EB, 0x1F1F7], "france flag_for_france"),
    ([0x1F1EC, 0x1F1EB], "french_guiana flag_for_french_guiana"),
    ([0x1F1F5, 0x1F1EB], "french_polynesia flag_for_french_polynesia"),
    ([0x1F1F9, 0x1F1EB],
      "french_southern_territories flag_for_french_southern_territories"),
    ([0x1F1EC, 0x1F1E6], "gabon flag_for_gabon"),
    ([0x1F1EC, 0x1F1F2], "gambia flag_for_gambia"), ([0x264A], "gemini"),
    ([0x1F1EC, 0x1F1EA], "georgia flag_for_georgia"),
    ([0x1F1E9, 0x1F1EA], "germany flag_for_germany"),
    ([0x1F1EC, 0x1F1ED], "ghana flag_for_ghana"),
    ([0x1F1EC, 0x1F1EE], "gibraltar flag_for_gibraltar"),
    ([0x1F1EC, 0x1F1F7], "greece flag_for_greece"),
    ([0x1F1EC, 0x1F1F1], "greenland flag_for_greenland"),
    ([0x1F1EC, 0x1F1E9], "grenada flag_for_grenada"),
    ([0x1F1EC, 0x1F1F5], "guadeloupe flag_for_guadeloupe"),
    ([0x1F1EC, 0x1F1FA], "guam flag_for_guam"),
    ([0x1F1EC, 0x1F1F9], "guatemala flag_for_guatemala"),
    ([0x1F1EC, 0x1F1EC], "guernsey flag_for_guernsey"),
    ([0x1F1EC, 0x1F1F3], "guinea flag_for_guinea"),
    ([0x1F1EC, 0x1F1FC], "guinea-bissau flag_for_guinea__bissau"),
    ([0x1F1EC, 0x1F1FE], "guyana flag_for_guyana"),
    ([0x1F1ED, 0x1F1F9], "haiti flag_for_haiti"),
    ([0x1F1ED, 0x1F1F2],
      "heard_&_mcdonald_islands flag_for_heard_&_mcdonald_islands"),
    ([0x1F1ED, 0x1F1F3], "honduras flag_for_honduras"),
    ([0x1F1ED, 0x1F1F0], "hong_kong_sar_china flag_for_hong_kong"),
    ([0x1F1ED, 0x1F1FA], "hungary flag_for_hungary"),
    ([0x1F194], "id_button id"),
    ([0x1F1EE, 0x1F1F8], "iceland flag_for_iceland"),
    ([0x1F1EE, 0x1F1F3], "india flag_for_india"),
    ([0x1F1EE, 0x1F1E9], "indonesia flag_for_indonesia"),
    ([0x1F1EE, 0x1F1F7], "iran flag_for_iran"),
    ([0x1F1EE, 0x1F1F6], "iraq flag_for_iraq"),
    ([0x1F1EE, 0x1F1EA], "ireland flag_for_ireland"),
    ([0x1F1EE, 0x1F1F2], "isle_of_man flag_for_isle_of_man"),
    ([0x1F1EE, 0x1F1F1], "israel flag_for_israel"),
    ([0x1F1EE, 0x1F1F9], "italy flag_for_italy"),
    ([0x1F1EF, 0x1F1F2], "jamaica flag_for_jamaica"),
    ([0x1F5FE], "japan map_of_japan"),
    ([0x1F251], "japanese_acceptable_button accept"),
    ([0x1F238], "japanese_application_button u7533"),
    ([0x1F250], "japanese_bargain_button ideograph_advantage"),
    ([0x1F3EF], "japanese_castle"),
    ([0x3297], "japanese_congratulations_button congratulations"),
    ([0x1F239], "japanese_discount_button u5272"),
    ([0x1F38E], "japanese_dolls dolls"),
    ([0x1F21A], "japanese_free_of_charge_button u7121"),
    ([0x1F201], "japanese_here_button koko"),
    ([0x1F237], "japanese_monthly_amount_button u6708"),
    ([0x1F235], "japanese_no_vacancy_button u6e80"),
    ([0x1F236], "japanese_not_free_of_charge_button u6709"),
    ([0x1F23A], "japanese_open_for_business_button u55b6"),
    ([0x1F234], "japanese_passing_grade_button u5408"),
    ([0x1F3E3], "japanese_post_office post_office"),
    ([0x1F232], "japanese_prohibited_button u7981"),
    ([0x1F22F], "japanese_reserved_button u6307"),
    ([0x3299], "japanese_secret_button secret"),
    ([0x1F202], "japanese_service_charge_button sa"),
    ([0x1F530], "japanese_symbol_for_beginner beginner"),
    ([0x1F233], "japanese_vacancy_button u7a7a"),
    ([0x1F1EF, 0x1F1EA], "jersey flag_for_jersey"),
    ([0x1F1EF, 0x1F1F4], "jordan flag_for_jordan"),
    ([0x1F1F0, 0x1F1FF], "kazakhstan flag_for_kazakhstan"),
    ([0x1F1F0, 0x1F1EA], "kenya flag_for_kenya"),
    ([0x1F1F0, 0x1F1EE], "kiribati flag_for_kiribati"),
    ([0x1F1FD, 0x1F1F0], "kosovo flag_for_kosovo"),
    ([0x1F1F0, 0x1F1FC], "kuwait flag_for_kuwait"),
    ([0x1F1F0, 0x1F1EC], "kyrgyzstan flag_for_kyrgyzstan"),
    ([0x1F1F1, 0x1F1E6], "laos flag_for_laos"),
    ([0x1F1F1, 0x1F1FB], "latvia flag_for_latvia"),
    ([0x1F1F1, 0x1F1E7], "lebanon flag_for_lebanon"), ([0x264C], "leo"),
    ([0x1F1F1, 0x1F1F8], "lesotho flag_for_lesotho"),
    ([0x1F1F1, 0x1F1F7], "liberia flag_for_liberia"), ([0x264E], "libra"),
    ([0x1F1F1, 0x1F1FE], "libya flag_for_libya"),
    ([0x1F1F1, 0x1F1EE], "liechtenstein flag_for_liechtenstein"),
    ([0x1F1F1, 0x1F1F9], "lithuania flag_for_lithuania"),
    ([0x1F1F1, 0x1F1FA], "luxembourg flag_for_luxembourg"),
    ([0x1F1F2, 0x1F1F4], "macau_sar_china flag_for_macau"),
    ([0x1F1F2, 0x1F1F0], "macedonia flag_for_macedonia"),
    ([0x1F1F2, 0x1F1EC], "madagascar flag_for_madagascar"),
    ([0x1F1F2, 0x1F1FC], "malawi flag_for_malawi"),
    ([0x1F1F2, 0x1F1FE], "malaysia flag_for_malaysia"),
    ([0x1F1F2, 0x1F1FB], "maldives flag_for_maldives"),
    ([0x1F1F2, 0x1F1F1], "mali flag_for_mali"),
    ([0x1F1F2, 0x1F1F9], "malta flag_for_malta"),
    ([0x1F1F2, 0x1F1ED], "marshall_islands flag_for_marshall_islands"),
    ([0x1F1F2, 0x1F1F6], "martinique flag_for_martinique"),
    ([0x1F1F2, 0x1F1F7], "mauritania flag_for_mauritania"),
    ([0x1F1F2, 0x1F1FA], "mauritius flag_for_mauritius"),
    ([0x1F1FE, 0x1F1F9], "mayotte flag_for_mayotte"),
    ([0x1F1F2, 0x1F1FD], "mexico flag_for_mexico"),
    ([0x1F1EB, 0x1F1F2], "micronesia flag_for_micronesia"),
    ([0x1F1F2, 0x1F1E9], "moldova flag_for_moldova"),
    ([0x1F1F2, 0x1F1E8], "monaco flag_for_monaco"),
    ([0x1F1F2, 0x1F1F3], "mongolia flag_for_mongolia"),
    ([0x1F1F2, 0x1F1EA], "montenegro flag_for_montenegro"),
    ([0x1F1F2, 0x1F1F8], "montserrat flag_for_montserrat"),
    ([0x1F1F2, 0x1F1E6], "morocco flag_for_morocco"),
    ([0x1F1F2, 0x1F1FF], "mozambique flag_for_mozambique"),
    ([0x1F936], "mrs._claus"),
    ([0x1F936, 0x1F3FF], "mrs._claus_dark_skin_tone"),
    ([0x1F936, 0x1F3FB], "mrs._claus_light_skin_tone"),
    ([0x1F936, 0x1F3FE], "mrs._claus_medium-dark_skin_tone"),
    ([0x1F936, 0x1F3FC], "mrs._claus_medium-light_skin_tone"),
    ([0x1F936, 0x1F3FD], "mrs._claus_medium_skin_tone"),
    ([0x1F1F2, 0x1F1F2], "myanmar_(burma) flag_for_myanmar"),
    ([0x1F195], "new_button new"), ([0x1F196], "ng_button ng"),
    ([0x1F1F3, 0x1F1E6], "namibia flag_for_namibia"),
    ([0x1F1F3, 0x1F1F7], "nauru flag_for_nauru"),
    ([0x1F1F3, 0x1F1F5], "nepal flag_for_nepal"),
    ([0x1F1F3, 0x1F1F1], "netherlands flag_for_netherlands"),
    ([0x1F1F3, 0x1F1E8], "new_caledonia flag_for_new_caledonia"),
    ([0x1F1F3, 0x1F1FF], "new_zealand flag_for_new_zealand"),
    ([0x1F1F3, 0x1F1EE], "nicaragua flag_for_nicaragua"),
    ([0x1F1F3, 0x1F1EA], "niger flag_for_niger"),
    ([0x1F1F3, 0x1F1EC], "nigeria flag_for_nigeria"),
    ([0x1F1F3, 0x1F1FA], "niue flag_for_niue"),
    ([0x1F1F3, 0x1F1EB], "norfolk_island flag_for_norfolk_island"),
    ([0x1F1F0, 0x1F1F5], "north_korea flag_for_north_korea"),
    ([0x1F1F2, 0x1F1F5],
      "northern_mariana_islands flag_for_northern_mariana_islands"),
    ([0x1F1F3, 0x1F1F4], "norway flag_for_norway"),
    ([0x1F197], "ok_button ok"), ([0x1F44C], "ok_hand"),
    ([0x1F44C, 0x1F3FF], "ok_hand_dark_skin_tone"),
    ([0x1F44C, 0x1F3FB], "ok_hand_light_skin_tone"),
    ([0x1F44C, 0x1F3FE], "ok_hand_medium-dark_skin_tone"),
    ([0x1F44C, 0x1F3FC], "ok_hand_medium-light_skin_tone"),
    ([0x1F44C, 0x1F3FD], "ok_hand_medium_skin_tone"),
    ([0x1F51B], "on!_arrow on"), ([0x1F17E], "o_button_(blood_type) o2"),
    ([0x1F1F4, 0x1F1F2], "oman flag_for_oman"), ([0x26CE], "ophiuchus"),
    ([0x1F17F], "p_button parking"),
    ([0x1F1F5, 0x1F1F0], "pakistan flag_for_pakistan"),
    ([0x1F1F5, 0x1F1FC], "palau flag_for_palau"),
    ([0x1F1F5, 0x1F1F8],
      "palestinian_territories flag_for_palestinian_territories"),
    ([0x1F1F5, 0x1F1E6], "panama flag_for_panama"),
    ([0x1F1F5, 0x1F1EC], "papua_new_guinea flag_for_papua_new_guinea"),
    ([0x1F1F5, 0x1F1FE], "paraguay flag_for_paraguay"),
    ([0x1F1F5, 0x1F1EA], "peru flag_for_peru"),
    ([0x1F1F5, 0x1F1ED], "philippines flag_for_philippines"),
    ([0x2653], "pisces"),
    ([0x1F1F5, 0x1F1F3], "pitcairn_islands flag_for_pitcairn_islands"),
    ([0x1F1F5, 0x1F1F1], "poland flag_for_poland"),
    ([0x1F1F5, 0x1F1F9], "portugal flag_for_portugal"),
    ([0x1F1F5, 0x1F1F7], "puerto_rico flag_for_puerto_rico"),
    ([0x1F1F6, 0x1F1E6], "qatar flag_for_qatar"),
    ([0x1F1F7, 0x1F1F4], "romania flag_for_romania"),
    ([0x1F1F7, 0x1F1FA], "russia flag_for_russia"),
    ([0x1F1F7, 0x1F1FC], "rwanda flag_for_rwanda"),
    ([0x1F1F7, 0x1F1EA], "réunion flag_for_réunion"),
    ([0x1F51C], "soon_arrow soon"), ([0x1F198], "sos_button sos"),
    ([0x2650], "sagittarius"), ([0x1F1FC, 0x1F1F8], "samoa flag_for_samoa"),
    ([0x1F1F8, 0x1F1F2], "san_marino flag_for_san_marino"),
    ([0x1F385], "santa_claus santa"),
    ([0x1F385, 0x1F3FF], "santa_claus_dark_skin_tone"),
    ([0x1F385, 0x1F3FB], "santa_claus_light_skin_tone"),
    ([0x1F385, 0x1F3FE], "santa_claus_medium-dark_skin_tone"),
    ([0x1F385, 0x1F3FC], "santa_claus_medium-light_skin_tone"),
    ([0x1F385, 0x1F3FD], "santa_claus_medium_skin_tone"),
    ([0x1F1F8, 0x1F1E6], "saudi_arabia flag_for_saudi_arabia"),
    ([0x264F], "scorpio scorpius"),
    ([0x1F3F4, 0xE0067, 0xE0062, 0xE0073, 0xE0063, 0xE0074, 0xE007F],
      "scotland"), ([0x1F1F8, 0x1F1F3], "senegal flag_for_senegal"),
    ([0x1F1F7, 0x1F1F8], "serbia flag_for_serbia"),
    ([0x1F1F8, 0x1F1E8], "seychelles flag_for_seychelles"),
    ([0x1F1F8, 0x1F1F1], "sierra_leone flag_for_sierra_leone"),
    ([0x1F1F8, 0x1F1EC], "singapore flag_for_singapore"),
    ([0x1F1F8, 0x1F1FD], "sint_maarten flag_for_sint_maarten"),
    ([0x1F1F8, 0x1F1F0], "slovakia flag_for_slovakia"),
    ([0x1F1F8, 0x1F1EE], "slovenia flag_for_slovenia"),
    ([0x1F1F8, 0x1F1E7], "solomon_islands flag_for_solomon_islands"),
    ([0x1F1F8, 0x1F1F4], "somalia flag_for_somalia"),
    ([0x1F1FF, 0x1F1E6], "south_africa flag_for_south_africa"),
    ([0x1F1EC, 0x1F1F8], "south_georgia_&_south_sandwich_islands"),
    ([0x1F1EC, 0x1F1F8], "flag_for_south_georgia_&_south_sandwich_islands"),
    ([0x1F1F0, 0x1F1F7], "south_korea flag_for_south_korea"),
    ([0x1F1F8, 0x1F1F8], "south_sudan flag_for_south_sudan"),
    ([0x1F1EA, 0x1F1F8], "spain flag_for_spain"),
    ([0x1F1F1, 0x1F1F0], "sri_lanka flag_for_sri_lanka"),
    ([0x1F1E7, 0x1F1F1], "st._barthélemy flag_for_st._barthélemy"),
    ([0x1F1F8, 0x1F1ED], "st._helena flag_for_st._helena"),
    ([0x1F1F0, 0x1F1F3], "st._kitts_&_nevis flag_for_st._kitts_&_nevis"),
    ([0x1F1F1, 0x1F1E8], "st._lucia flag_for_st._lucia"),
    ([0x1F1F2, 0x1F1EB], "st._martin flag_for_st._martin"),
    ([0x1F1F5, 0x1F1F2],
      "st._pierre_&_miquelon flag_for_st._pierre_&_miquelon"),
    ([0x1F1FB, 0x1F1E8],
      "st._vincent_&_grenadines flag_for_st._vincent_&_grenadines"),
    ([0x1F5FD], "statue_of_liberty"),
    ([0x1F1F8, 0x1F1E9], "sudan flag_for_sudan"),
    ([0x1F1F8, 0x1F1F7], "suriname flag_for_suriname"),
    ([0x1F1F8, 0x1F1EF], "svalbard_&_jan_mayen flag_for_svalbard_&_jan_mayen"),
    ([0x1F1F8, 0x1F1FF], "swaziland flag_for_swaziland"),
    ([0x1F1F8, 0x1F1EA], "sweden flag_for_sweden"),
    ([0x1F1E8, 0x1F1ED], "switzerland flag_for_switzerland"),
    ([0x1F1F8, 0x1F1FE], "syria flag_for_syria"),
    ([0x1F1F8, 0x1F1F9], "são_tomé_&_príncipe flag_for_são_tomé_&_príncipe"),
    ([0x1F996], "t-rex"), ([0x1F51D], "top_arrow top"),
    ([0x1F1F9, 0x1F1FC], "taiwan flag_for_taiwan"),
    ([0x1F1F9, 0x1F1EF], "tajikistan flag_for_tajikistan"),
    ([0x1F1F9, 0x1F1FF], "tanzania flag_for_tanzania"), ([0x2649], "taurus"),
    ([0x1F1F9, 0x1F1ED], "thailand flag_for_thailand"),
    ([0x1F1F9, 0x1F1F1], "timor-leste flag_for_timor__leste"),
    ([0x1F1F9, 0x1F1EC], "togo flag_for_togo"),
    ([0x1F1F9, 0x1F1F0], "tokelau flag_for_tokelau"),
    ([0x1F5FC], "tokyo_tower"), ([0x1F1F9, 0x1F1F4], "tonga flag_for_tonga"),
    ([0x1F1F9, 0x1F1F9], "trinidad_&_tobago flag_for_trinidad_&_tobago"),
    ([0x1F1F9, 0x1F1E6], "tristan_da_cunha flag_for_tristan_da_cunha"),
    ([0x1F1F9, 0x1F1F3], "tunisia flag_for_tunisia"), ([0x1F983], "turkey"),
    ([0x1F1F9, 0x1F1F2], "turkmenistan flag_for_turkmenistan"),
    ([0x1F1F9, 0x1F1E8],
      "turks_&_caicos_islands flag_for_turks_&_caicos_islands"),
    ([0x1F1F9, 0x1F1FB], "tuvalu flag_for_tuvalu"),
    ([0x1F1FA, 0x1F1F2],
      "u.s._outlying_islands flag_for_u.s._outlying_islands"),
    ([0x1F1FB, 0x1F1EE], "u.s._virgin_islands flag_for_u.s._virgin_islands"),
    ([0x1F199], "up!_button up"),
    ([0x1F1FA, 0x1F1EC], "uganda flag_for_uganda"),
    ([0x1F1FA, 0x1F1E6], "ukraine flag_for_ukraine"),
    ([0x1F1E6, 0x1F1EA], "united_arab_emirates flag_for_united_arab_emirates"),
    ([0x1F1EC, 0x1F1E7], "united_kingdom flag_for_united_kingdom"),
    ([0x1F1FA, 0x1F1F3], "united_nations"),
    ([0x1F1FA, 0x1F1F8], "united_states flag_for_united_states"),
    ([0x1F1FA, 0x1F1FE], "uruguay flag_for_uruguay"),
    ([0x1F1FA, 0x1F1FF], "uzbekistan flag_for_uzbekistan"),
    ([0x1F19A], "vs_button vs"),
    ([0x1F1FB, 0x1F1FA], "vanuatu flag_for_vanuatu"),
    ([0x1F1FB, 0x1F1E6], "vatican_city flag_for_vatican_city"),
    ([0x1F1FB, 0x1F1EA], "venezuela flag_for_venezuela"),
    ([0x1F1FB, 0x1F1F3], "vietnam flag_for_vietnam"), ([0x264D], "virgo"),
    ([0x1F3F4, 0xE0067, 0xE0062, 0xE0077, 0xE006C, 0xE0073, 0xE007F], "wales"),
    ([0x1F1FC, 0x1F1EB], "wallis_&_futuna flag_for_wallis_&_futuna"),
    ([0x1F1EA, 0x1F1ED], "western_sahara flag_for_western_sahara"),
    ([0x1F1FE, 0x1F1EA], "yemen flag_for_yemen"),
    ([0x1F1FF, 0x1F1F2], "zambia flag_for_zambia"),
    ([0x1F1FF, 0x1F1FC], "zimbabwe flag_for_zimbabwe"), ([0x1F9EE], "abacus"),
    ([0x1FA79], "adhesive_bandage"), ([0x1F39F], "admission_tickets"),
    ([0x1F9D1], "adult"), ([0x1F9D1, 0x1F3FF], "adult_dark_skin_tone"),
    ([0x1F9D1, 0x1F3FB], "adult_light_skin_tone"),
    ([0x1F9D1, 0x1F3FE], "adult_medium-dark_skin_tone"),
    ([0x1F9D1, 0x1F3FC], "adult_medium-light_skin_tone"),
    ([0x1F9D1, 0x1F3FD], "adult_medium_skin_tone"),
    ([0x1F6A1], "aerial_tramway"), ([0x2708], "airplane"),
    ([0x1F6EC], "airplane_arrival airplane_arriving"),
    ([0x1F6EB], "airplane_departure"), ([0x23F0], "alarm_clock"),
    ([0x2697], "alembic"), ([0x1F47D], "alien"),
    ([0x1F47E], "alien_monster space_invader"), ([0x1F691], "ambulance"),
    ([0x1F3C8], "american_football football"), ([0x1F3FA], "amphora"),
    ([0x2693], "anchor"), ([0x1F4A2], "anger_symbol anger"),
    ([0x1F620], "angry_face angry"), ([0x1F47F], "angry_face_with_horns imp"),
    ([0x1F627], "anguished_face anguished"), ([0x1F41C], "ant"),
    ([0x1F4F6], "antenna_bars signal_strength"),
    ([0x1F630], "anxious_face_with_sweat cold_sweat"),
    ([0x1F69B], "articulated_lorry"), ([0x1F3A8], "artist_palette art"),
    ([0x1F632], "astonished_face astonished"), ([0x269B], "atom_symbol"),
    ([0x1F6FA], "auto_rickshaw"), ([0x1F697], "automobile car red_car"),
    ([0x1F951], "avocado"), ([0x1FA93], "axe"), ([0x1F476], "baby"),
    ([0x1F47C], "baby_angel angel"),
    ([0x1F47C, 0x1F3FF], "baby_angel_dark_skin_tone"),
    ([0x1F47C, 0x1F3FB], "baby_angel_light_skin_tone"),
    ([0x1F47C, 0x1F3FE], "baby_angel_medium-dark_skin_tone"),
    ([0x1F47C, 0x1F3FC], "baby_angel_medium-light_skin_tone"),
    ([0x1F47C, 0x1F3FD], "baby_angel_medium_skin_tone"),
    ([0x1F37C], "baby_bottle"), ([0x1F424], "baby_chick"),
    ([0x1F476, 0x1F3FF], "baby_dark_skin_tone"),
    ([0x1F476, 0x1F3FB], "baby_light_skin_tone"),
    ([0x1F476, 0x1F3FE], "baby_medium-dark_skin_tone"),
    ([0x1F476, 0x1F3FC], "baby_medium-light_skin_tone"),
    ([0x1F476, 0x1F3FD], "baby_medium_skin_tone"), ([0x1F6BC], "baby_symbol"),
    ([0x1F447], "backhand_index_pointing_down point_down"),
    ([0x1F447, 0x1F3FF], "backhand_index_pointing_down_dark_skin_tone"),
    ([0x1F447, 0x1F3FB], "backhand_index_pointing_down_light_skin_tone"),
    ([0x1F447, 0x1F3FE], "backhand_index_pointing_down_medium-dark_skin_tone"),
    ([0x1F447, 0x1F3FC],
      "backhand_index_pointing_down_medium-light_skin_tone"),
    ([0x1F447, 0x1F3FD], "backhand_index_pointing_down_medium_skin_tone"),
    ([0x1F448], "backhand_index_pointing_left point_left"),
    ([0x1F448, 0x1F3FF], "backhand_index_pointing_left_dark_skin_tone"),
    ([0x1F448, 0x1F3FB], "backhand_index_pointing_left_light_skin_tone"),
    ([0x1F448, 0x1F3FE], "backhand_index_pointing_left_medium-dark_skin_tone"),
    ([0x1F448, 0x1F3FC],
      "backhand_index_pointing_left_medium-light_skin_tone"),
    ([0x1F448, 0x1F3FD], "backhand_index_pointing_left_medium_skin_tone"),
    ([0x1F449], "backhand_index_pointing_right point_right"),
    ([0x1F449, 0x1F3FF], "backhand_index_pointing_right_dark_skin_tone"),
    ([0x1F449, 0x1F3FB], "backhand_index_pointing_right_light_skin_tone"),
    ([0x1F449, 0x1F3FE],
      "backhand_index_pointing_right_medium-dark_skin_tone"),
    ([0x1F449, 0x1F3FC],
      "backhand_index_pointing_right_medium-light_skin_tone"),
    ([0x1F449, 0x1F3FD], "backhand_index_pointing_right_medium_skin_tone"),
    ([0x1F446], "backhand_index_pointing_up point_up_2"),
    ([0x1F446, 0x1F3FF], "backhand_index_pointing_up_dark_skin_tone"),
    ([0x1F446, 0x1F3FB], "backhand_index_pointing_up_light_skin_tone"),
    ([0x1F446, 0x1F3FE], "backhand_index_pointing_up_medium-dark_skin_tone"),
    ([0x1F446, 0x1F3FC], "backhand_index_pointing_up_medium-light_skin_tone"),
    ([0x1F446, 0x1F3FD], "backhand_index_pointing_up_medium_skin_tone"),
    ([0x1F953], "bacon"), ([0x1F9A1], "badger"),
    ([0x1F3F8], "badminton badminton_racquet_and_shuttlecock"),
    ([0x1F96F], "bagel"), ([0x1F6C4], "baggage_claim"),
    ([0x1F956], "baguette_bread"), ([0x2696], "balance_scale scales"),
    ([0x1F9B2], "bald"), ([0x1F468, 0x200D, 0x1F9B2], "bald_man"),
    ([0x1F469, 0x200D, 0x1F9B2], "bald_woman"), ([0x1FA70], "ballet_shoes"),
    ([0x1F388], "balloon"), ([0x1F5F3], "ballot_box_with_ballot"),
    ([0x2611], "ballot_box_with_check"), ([0x1F34C], "banana"),
    ([0x1FA95], "banjo"), ([0x1F3E6], "bank"), ([0x1F4CA], "bar_chart"),
    ([0x1F488], "barber_pole barber"), ([0x26BE], "baseball"),
    ([0x1F9FA], "basket"), ([0x1F3C0], "basketball"), ([0x1F987], "bat"),
    ([0x1F6C1], "bathtub"), ([0x1F50B], "battery"),
    ([0x1F3D6], "beach_with_umbrella"),
    ([0x1F601], "beaming_face_with_smiling_eyes grin"),
    ([0x1F43B], "bear_face bear"), ([0x1F9D4], "bearded_person"),
    ([0x1F9D4, 0x1F3FF], "bearded_person_dark_skin_tone"),
    ([0x1F9D4, 0x1F3FB], "bearded_person_light_skin_tone"),
    ([0x1F9D4, 0x1F3FE], "bearded_person_medium-dark_skin_tone"),
    ([0x1F9D4, 0x1F3FC], "bearded_person_medium-light_skin_tone"),
    ([0x1F9D4, 0x1F3FD], "bearded_person_medium_skin_tone"),
    ([0x1F493], "beating_heart heartbeat"), ([0x1F6CF], "bed"),
    ([0x1F37A], "beer_mug beer"), ([0x1F514], "bell"),
    ([0x1F515], "bell_with_slash no_bell"), ([0x1F6CE], "bellhop_bell"),
    ([0x1F371], "bento_box bento"), ([0x1F9C3], "beverage_box"),
    ([0x1F6B2], "bicycle bike"), ([0x1F459], "bikini"),
    ([0x1F9E2], "billed_cap"), ([0x2623], "biohazard biohazard_sign"),
    ([0x1F426], "bird"), ([0x1F382], "birthday_cake birthday"),
    ([0x26AB], "black_circle"), ([0x1F3F4], "black_flag waving_black_flag"),
    ([0x1F5A4], "black_heart"), ([0x2B1B], "black_large_square"),
    ([0x25FE], "black_medium-small_square black_medium_small_square"),
    ([0x25FC], "black_medium_square"), ([0x2712], "black_nib"),
    ([0x25AA], "black_small_square"), ([0x1F532], "black_square_button"),
    ([0x1F471, 0x200D, 0x2642, 0xFE0F], "blond-haired_man"),
    ([0x1F471, 0x1F3FF, 0x200D, 0x2642, 0xFE0F],
      "blond-haired_man_dark_skin_tone"),
    ([0x1F471, 0x1F3FB, 0x200D, 0x2642, 0xFE0F],
      "blond-haired_man_light_skin_tone"),
    ([0x1F471, 0x1F3FE, 0x200D, 0x2642, 0xFE0F],
      "blond-haired_man_medium-dark_skin_tone"),
    ([0x1F471, 0x1F3FC, 0x200D, 0x2642, 0xFE0F],
      "blond-haired_man_medium-light_skin_tone"),
    ([0x1F471, 0x1F3FD, 0x200D, 0x2642, 0xFE0F],
      "blond-haired_man_medium_skin_tone"),
    ([0x1F471], "blond-haired_person person_with_blond_hair"),
    ([0x1F471, 0x1F3FF], "blond-haired_person_dark_skin_tone"),
    ([0x1F471, 0x1F3FB], "blond-haired_person_light_skin_tone"),
    ([0x1F471, 0x1F3FE], "blond-haired_person_medium-dark_skin_tone"),
    ([0x1F471, 0x1F3FC], "blond-haired_person_medium-light_skin_tone"),
    ([0x1F471, 0x1F3FD], "blond-haired_person_medium_skin_tone"),
    ([0x1F471, 0x200D, 0x2640, 0xFE0F], "blond-haired_woman"),
    ([0x1F471, 0x1F3FF, 0x200D, 0x2640, 0xFE0F],
      "blond-haired_woman_dark_skin_tone"),
    ([0x1F471, 0x1F3FB, 0x200D, 0x2640, 0xFE0F],
      "blond-haired_woman_light_skin_tone"),
    ([0x1F471, 0x1F3FE, 0x200D, 0x2640, 0xFE0F],
      "blond-haired_woman_medium-dark_skin_tone"),
    ([0x1F471, 0x1F3FC, 0x200D, 0x2640, 0xFE0F],
      "blond-haired_woman_medium-light_skin_tone"),
    ([0x1F471, 0x1F3FD, 0x200D, 0x2640, 0xFE0F],
      "blond-haired_woman_medium_skin_tone"), ([0x1F33C], "blossom"),
    ([0x1F421], "blowfish"), ([0x1F4D8], "blue_book"),
    ([0x1F535], "blue_circle large_blue_circle"), ([0x1F499], "blue_heart"),
    ([0x1F7E6], "blue_square"), ([0x1F417], "boar"), ([0x1F4A3], "bomb"),
    ([0x1F9B4], "bone"), ([0x1F516], "bookmark"), ([0x1F4D1], "bookmark_tabs"),
    ([0x1F4DA], "books"), ([0x1F37E], "bottle_with_popping_cork"),
    ([0x1F490], "bouquet"), ([0x1F3F9], "bow_and_arrow"),
    ([0x1F963], "bowl_with_spoon"), ([0x1F3B3], "bowling"),
    ([0x1F94A], "boxing_glove"), ([0x1F466], "boy"),
    ([0x1F466, 0x1F3FF], "boy_dark_skin_tone"),
    ([0x1F466, 0x1F3FB], "boy_light_skin_tone"),
    ([0x1F466, 0x1F3FE], "boy_medium-dark_skin_tone"),
    ([0x1F466, 0x1F3FC], "boy_medium-light_skin_tone"),
    ([0x1F466, 0x1F3FD], "boy_medium_skin_tone"), ([0x1F9E0], "brain"),
    ([0x1F35E], "bread"), ([0x1F931], "breast-feeding"),
    ([0x1F931, 0x1F3FF], "breast-feeding_dark_skin_tone"),
    ([0x1F931, 0x1F3FB], "breast-feeding_light_skin_tone"),
    ([0x1F931, 0x1F3FE], "breast-feeding_medium-dark_skin_tone"),
    ([0x1F931, 0x1F3FC], "breast-feeding_medium-light_skin_tone"),
    ([0x1F931, 0x1F3FD], "breast-feeding_medium_skin_tone"),
    ([0x1F9F1], "brick"), ([0x1F470], "bride_with_veil"),
    ([0x1F470, 0x1F3FF], "bride_with_veil_dark_skin_tone"),
    ([0x1F470, 0x1F3FB], "bride_with_veil_light_skin_tone"),
    ([0x1F470, 0x1F3FE], "bride_with_veil_medium-dark_skin_tone"),
    ([0x1F470, 0x1F3FC], "bride_with_veil_medium-light_skin_tone"),
    ([0x1F470, 0x1F3FD], "bride_with_veil_medium_skin_tone"),
    ([0x1F309], "bridge_at_night"), ([0x1F4BC], "briefcase"),
    ([0x1FA72], "briefs"), ([0x1F506], "bright_button high_brightness"),
    ([0x1F966], "broccoli"), ([0x1F494], "broken_heart"), ([0x1F9F9], "broom"),
    ([0x1F7E4], "brown_circle"), ([0x1F90E], "brown_heart"),
    ([0x1F7EB], "brown_square"), ([0x1F41B], "bug"),
    ([0x1F3D7], "building_construction"),
    ([0x1F685], "bullet_train bullettrain_front"), ([0x1F32F], "burrito"),
    ([0x1F68C], "bus"), ([0x1F68F], "bus_stop busstop"),
    ([0x1F464], "bust_in_silhouette"), ([0x1F465], "busts_in_silhouette"),
    ([0x1F9C8], "butter"), ([0x1F98B], "butterfly"), ([0x1F335], "cactus"),
    ([0x1F4C6], "calendar tear-off_calendar"), ([0x1F919], "call_me_hand"),
    ([0x1F919, 0x1F3FF], "call_me_hand_dark_skin_tone"),
    ([0x1F919, 0x1F3FB], "call_me_hand_light_skin_tone"),
    ([0x1F919, 0x1F3FE], "call_me_hand_medium-dark_skin_tone"),
    ([0x1F919, 0x1F3FC], "call_me_hand_medium-light_skin_tone"),
    ([0x1F919, 0x1F3FD], "call_me_hand_medium_skin_tone"),
    ([0x1F42B], "camel two-hump_camel"), ([0x1F4F7], "camera"),
    ([0x1F4F8], "camera_with_flash"), ([0x1F3D5], "camping"),
    ([0x1F56F], "candle"), ([0x1F36C], "candy"), ([0x1F96B], "canned_food"),
    ([0x1F6F6], "canoe"), ([0x1F5C3], "card_file_box"),
    ([0x1F4C7], "card_index"), ([0x1F5C2], "card_index_dividers"),
    ([0x1F3A0], "carousel_horse"), ([0x1F38F], "carp_streamer flags"),
    ([0x1F955], "carrot"), ([0x1F3F0], "castle european_castle"),
    ([0x1F431], "cat cat_face"),
    ([0x1F639], "cat_face_with_tears_of_joy joy_cat"),
    ([0x1F63C], "cat_face_with_wry_smile smirk_cat"), ([0x26D3], "chains"),
    ([0x1FA91], "chair"),
    ([0x1F4C9], "chart_decreasing chart_with_downwards_trend"),
    ([0x1F4C8], "chart_increasing chart_with_upwards_trend"),
    ([0x1F4B9], "chart_increasing_with_yen chart"),
    ([0x1F9C0], "cheese_wedge"), ([0x1F3C1], "chequered_flag checkered_flag"),
    ([0x1F352], "cherries"), ([0x1F338], "cherry_blossom"),
    ([0x265F], "chess_pawn"), ([0x1F330], "chestnut"), ([0x1F414], "chicken"),
    ([0x1F9D2], "child"), ([0x1F9D2, 0x1F3FF], "child_dark_skin_tone"),
    ([0x1F9D2, 0x1F3FB], "child_light_skin_tone"),
    ([0x1F9D2, 0x1F3FE], "child_medium-dark_skin_tone"),
    ([0x1F9D2, 0x1F3FC], "child_medium-light_skin_tone"),
    ([0x1F9D2, 0x1F3FD], "child_medium_skin_tone"),
    ([0x1F6B8], "children_crossing"), ([0x1F43F], "chipmunk"),
    ([0x1F36B], "chocolate_bar"), ([0x1F962], "chopsticks"),
    ([0x26EA], "church"), ([0x1F6AC], "cigarette smoking"),
    ([0x1F3A6], "cinema"), ([0x24C2], "circled_m m"),
    ([0x1F3AA], "circus_tent"), ([0x1F3D9], "cityscape"),
    ([0x1F306], "cityscape_at_dusk city_sunset"),
    ([0x1F5DC], "clamp compression"), ([0x1F3AC], "clapper_board clapper"),
    ([0x1F44F], "clapping_hands clap"),
    ([0x1F44F, 0x1F3FF], "clapping_hands_dark_skin_tone"),
    ([0x1F44F, 0x1F3FB], "clapping_hands_light_skin_tone"),
    ([0x1F44F, 0x1F3FE], "clapping_hands_medium-dark_skin_tone"),
    ([0x1F44F, 0x1F3FC], "clapping_hands_medium-light_skin_tone"),
    ([0x1F44F, 0x1F3FD], "clapping_hands_medium_skin_tone"),
    ([0x1F3DB], "classical_building"), ([0x1F37B], "clinking_beer_mugs beers"),
    ([0x1F942], "clinking_glasses"), ([0x1F4CB], "clipboard"),
    ([0x1F503], "clockwise_vertical_arrows arrows_clockwise"),
    ([0x1F4D5], "closed_book"),
    ([0x1F4EA], "closed_mailbox_with_lowered_flag mailbox_closed"),
    ([0x1F4EB], "closed_mailbox_with_raised_flag mailbox"),
    ([0x1F302], "closed_umbrella"), ([0x2601], "cloud"),
    ([0x1F329], "cloud_with_lightning"),
    ([0x26C8], "cloud_with_lightning_and_rain thunder_cloud_and_rain"),
    ([0x1F327], "cloud_with_rain"), ([0x1F328], "cloud_with_snow"),
    ([0x1F921], "clown_face"), ([0x2663], "club_suit clubs"),
    ([0x1F45D], "clutch_bag pouch"), ([0x1F9E5], "coat"),
    ([0x1F378], "cocktail_glass cocktail"), ([0x1F965], "coconut"),
    ([0x26B0], "coffin"), ([0x1F976], "cold_face"),
    ([0x1F4A5], "collision boom"), ([0x2604], "comet"), ([0x1F9ED], "compass"),
    ([0x1F4BD], "computer_disk minidisc"),
    ([0x1F5B1], "computer_mouse three_button_mouse"),
    ([0x1F38A], "confetti_ball"), ([0x1F616], "confounded_face confounded"),
    ([0x1F615], "confused_face confused"), ([0x1F6A7], "construction"),
    ([0x1F477], "construction_worker"),
    ([0x1F477, 0x1F3FF], "construction_worker_dark_skin_tone"),
    ([0x1F477, 0x1F3FB], "construction_worker_light_skin_tone"),
    ([0x1F477, 0x1F3FE], "construction_worker_medium-dark_skin_tone"),
    ([0x1F477, 0x1F3FC], "construction_worker_medium-light_skin_tone"),
    ([0x1F477, 0x1F3FD], "construction_worker_medium_skin_tone"),
    ([0x1F39B], "control_knobs"), ([0x1F3EA], "convenience_store"),
    ([0x1F35A], "cooked_rice rice"), ([0x1F36A], "cookie"),
    ([0x1F373], "cooking egg"), ([0xA9], "copyright"),
    ([0x1F6CB], "couch_and_lamp"),
    ([0x1F504], "counterclockwise_arrows_button arrows_counterclockwise"),
    ([0x1F491], "couple_with_heart"),
    ([0x1F468, 0x200D, 0x2764, 0xFE0F, 0x200D, 0x1F468],
      "couple_with_heart_man_man"),
    ([0x1F469, 0x200D, 0x2764, 0xFE0F, 0x200D, 0x1F468],
      "couple_with_heart_woman_man"),
    ([0x1F469, 0x200D, 0x2764, 0xFE0F, 0x200D, 0x1F469],
      "couple_with_heart_woman_woman"), ([0x1F42E], "cow cow_face"),
    ([0x1F920], "cowboy_hat_face"), ([0x1F980], "crab"),
    ([0x1F58D], "crayon lower_left_crayon"), ([0x1F4B3], "credit_card"),
    ([0x1F319], "crescent_moon"), ([0x1F997], "cricket"),
    ([0x1F3CF], "cricket_game cricket_bat_and_ball"), ([0x1F40A], "crocodile"),
    ([0x1F950], "croissant"), ([0x274C], "cross_mark x"),
    ([0x274E], "cross_mark_button negative_squared_cross_mark"),
    ([0x1F91E], "crossed_fingers"),
    ([0x1F91E, 0x1F3FF], "crossed_fingers_dark_skin_tone"),
    ([0x1F91E, 0x1F3FB], "crossed_fingers_light_skin_tone"),
    ([0x1F91E, 0x1F3FE], "crossed_fingers_medium-dark_skin_tone"),
    ([0x1F91E, 0x1F3FC], "crossed_fingers_medium-light_skin_tone"),
    ([0x1F91E, 0x1F3FD], "crossed_fingers_medium_skin_tone"),
    ([0x1F38C], "crossed_flags"), ([0x2694], "crossed_swords"),
    ([0x1F451], "crown"), ([0x1F63F], "crying_cat_face"),
    ([0x1F622], "crying_face cry"), ([0x1F52E], "crystal_ball"),
    ([0x1F952], "cucumber"), ([0x1F9C1], "cupcake"),
    ([0x1F964], "cup_with_straw"), ([0x1F94C], "curling_stone"),
    ([0x1F9B1], "curly_hair"),
    ([0x1F468, 0x200D, 0x1F9B1], "curly-haired_man"),
    ([0x1F469, 0x200D, 0x1F9B1], "curly-haired_woman"),
    ([0x27B0], "curly_loop"), ([0x1F4B1], "currency_exchange"),
    ([0x1F35B], "curry_rice curry"), ([0x1F36E], "custard"),
    ([0x1F6C3], "customs"), ([0x1F969], "cut_of_meat"), ([0x1F300], "cyclone"),
    ([0x1F5E1], "dagger dagger_knife"), ([0x1F361], "dango"),
    ([0x1F4A8], "dashing_away dash") ]

/-- Rows of names, part 2 of 4. -/
def rowsB : List (List Nat × String) :=
  [ ([0x1F9CF], "deaf_person"), ([0x1F333], "deciduous_tree"),
    ([0x1F98C], "deer"), ([0x1F69A], "delivery_truck truck"),
    ([0x1F3EC], "department_store"),
    ([0x1F3DA], "derelict_house derelict_house_building"),
    ([0x1F3DC], "desert"), ([0x1F3DD], "desert_island"),
    ([0x1F5A5], "desktop_computer"), ([0x1F575], "detective sleuth_or_spy"),
    ([0x1F575, 0x1F3FF], "detective_dark_skin_tone"),
    ([0x1F575, 0x1F3FB], "detective_light_skin_tone"),
    ([0x1F575, 0x1F3FE], "detective_medium-dark_skin_tone"),
    ([0x1F575, 0x1F3FC], "detective_medium-light_skin_tone"),
    ([0x1F575, 0x1F3FD], "detective_medium_skin_tone"),
    ([0x2666], "diamond_suit diamonds"),
    ([0x1F4A0], "diamond_with_a_dot diamond_shape_with_a_dot_inside"),
    ([0x1F505], "dim_button low_brightness"), ([0x1F3AF], "direct_hit dart"),
    ([0x1F61E], "disappointed_face disappointed"), ([0x1F93F], "diving_mask"),
    ([0x1FA94], "diya_lamp"), ([0x1F4AB], "dizzy"), ([0x1F635], "dizzy_face"),
    ([0x1F9EC], "dna"), ([0x1F436], "dog dog_face"),
    ([0x1F4B5], "dollar_banknote dollar"), ([0x1F42C], "dolphin flipper"),
    ([0x1F6AA], "door"),
    ([0x1F52F], "dotted_six-pointed_star six_pointed_star"),
    ([0x27BF], "double_curly_loop loop"),
    ([0x203C], "double_exclamation_mark bangbang"), ([0x1F369], "doughnut"),
    ([0x1F54A], "dove dove_of_peace"),
    ([0x2199], "down-left_arrow arrow_lower_left"),
    ([0x2198], "down-right_arrow arrow_lower_right"),
    ([0x2B07], "down_arrow arrow_down"),
    ([0x1F613], "downcast_face_with_sweat sweat"),
    ([0x1F53D], "downwards_button arrow_down_small"), ([0x1F409], "dragon"),
    ([0x1F432], "dragon_face"), ([0x1F457], "dress"),
    ([0x1F924], "drooling_face"), ([0x1FA78], "drop_of_blood"),
    ([0x1F4A7], "droplet"), ([0x1F941], "drum"), ([0x1F986], "duck"),
    ([0x1F95F], "dumpling"), ([0x1F4C0], "dvd"), ([0x1F4E7], "e-mail e__mail"),
    ([0x1F985], "eagle"), ([0x1F442], "ear"),
    ([0x1F442, 0x1F3FF], "ear_dark_skin_tone"),
    ([0x1F442, 0x1F3FB], "ear_light_skin_tone"),
    ([0x1F442, 0x1F3FE], "ear_medium-dark_skin_tone"),
    ([0x1F442, 0x1F3FC], "ear_medium-light_skin_tone"),
    ([0x1F442, 0x1F3FD], "ear_medium_skin_tone"),
    ([0x1F33D], "ear_of_corn corn"), ([0x1F9BB], "ear_with_hearing_aid"),
    ([0x1F346], "eggplant"),
    ([0x2734], "eight-pointed_star eight_pointed_black_star"),
    ([0x2733], "eight-spoked_asterisk eight_spoked_asterisk"),
    ([0x1F563], "eight-thirty clock830"), ([0x1F557], "eight_o’clock clock8"),
    ([0x23CF], "eject_button eject_symbol"), ([0x1F50C], "electric_plug"),
    ([0x1F418], "elephant"), ([0x1F566], "eleven-thirty clock1130"),
    ([0x1F55A], "eleven_o’clock clock11"), ([0x1F9DD], "elf"),
    ([0x1F9DD, 0x1F3FF], "elf_dark_skin_tone"),
    ([0x1F9DD, 0x1F3FB], "elf_light_skin_tone"),
    ([0x1F9DD, 0x1F3FE], "elf_medium-dark_skin_tone"),
    ([0x1F9DD, 0x1F3FC], "elf_medium-light_skin_tone"),
    ([0x1F9DD, 0x1F3FD], "elf_medium_skin_tone"), ([0x2709], "envelope email"),
    ([0x1F4E9], "envelope_with_arrow"), ([0x1F4B6], "euro_banknote euro"),
    ([0x1F332], "evergreen_tree"), ([0x1F411], "ewe sheep"),
    ([0x2757], "exclamation_mark exclamation heavy_exclamation_mark"),
    ([0x2049], "exclamation_question_mark interrobang"),
    ([0x1F92F], "exploding_head"),
    ([0x1F611], "expressionless_face expressionless"), ([0x1F441], "eye"),
    ([0x1F441, 0xFE0F, 0x200D, 0x1F5E8, 0xFE0F], "eye_in_speech_bubble"),
    ([0x1F440], "eyes"), ([0x1F618], "face_blowing_a_kiss kissing_heart"),
    ([0x1F60B], "face_savoring_food yum"),
    ([0x1F631], "face_screaming_in_fear scream"), ([0x1F92E], "face_vomiting"),
    ([0x1F92D], "face_with_hand_over_mouth"),
    ([0x1F915], "face_with_head-bandage face_with_head__bandage"),
    ([0x1F637], "face_with_medical_mask mask"),
    ([0x1F9D0], "face_with_monocle"),
    ([0x1F62E], "face_with_open_mouth open_mouth"),
    ([0x1F928], "face_with_raised_eyebrow"),
    ([0x1F644], "face_with_rolling_eyes"),
    ([0x1F624], "face_with_steam_from_nose triumph"),
    ([0x1F92C], "face_with_symbols_on_mouth"),
    ([0x1F602], "face_with_tears_of_joy joy"),
    ([0x1F912], "face_with_thermometer"),
    ([0x1F61B], "face_with_tongue stuck_out_tongue"),
    ([0x1F636], "face_without_mouth no_mouth"), ([0x1F3ED], "factory"),
    ([0x1F9DA], "fairy"), ([0x1F9DA, 0x1F3FF], "fairy_dark_skin_tone"),
    ([0x1F9DA, 0x1F3FB], "fairy_light_skin_tone"),
    ([0x1F9DA, 0x1F3FE], "fairy_medium-dark_skin_tone"),
    ([0x1F9DA, 0x1F3FC], "fairy_medium-light_skin_tone"),
    ([0x1F9DA, 0x1F3FD], "fairy_medium_skin_tone"), ([0x1F9C6], "falafel"),
    ([0x1F342], "fallen_leaf"), ([0x1F46A], "family"),
    ([0x1F468, 0x200D, 0x1F466], "family_man_boy"),
    ([0x1F468, 0x200D, 0x1F466, 0x200D, 0x1F466], "family_man_boy_boy"),
    ([0x1F468, 0x200D, 0x1F467], "family_man_girl"),
    ([0x1F468, 0x200D, 0x1F467, 0x200D, 0x1F466], "family_man_girl_boy"),
    ([0x1F468, 0x200D, 0x1F467, 0x200D, 0x1F467], "family_man_girl_girl"),
    ([0x1F468, 0x200D, 0x1F468, 0x200D, 0x1F466], "family_man_man_boy"),
    ([0x1F468, 0x200D, 0x1F468, 0x200D, 0x1F466, 0x200D, 0x1F466],
      "family_man_man_boy_boy"),
    ([0x1F468, 0x200D, 0x1F468, 0x200D, 0x1F467], "family_man_man_girl"),
    ([0x1F468, 0x200D, 0x1F468, 0x200D, 0x1F467, 0x200D, 0x1F466],
      "family_man_man_girl_boy"),
    ([0x1F468, 0x200D, 0x1F468, 0x200D, 0x1F467, 0x200D, 0x1F467],
      "family_man_man_girl_girl"),
    ([0x1F468, 0x200D, 0x1F469, 0x200D, 0x1F466], "family_man_woman_boy"),
    ([0x1F468, 0x200D, 0x1F469, 0x200D, 0x1F466, 0x200D, 0x1F466],
      "family_man_woman_boy_boy"),
    ([0x1F468, 0x200D, 0x1F469, 0x200D, 0x1F467], "family_man_woman_girl"),
    ([0x1F468, 0x200D, 0x1F469, 0x200D, 0x1F467, 0x200D, 0x1F466],
      "family_man_woman_girl_boy"),
    ([0x1F468, 0x200D, 0x1F469, 0x200D, 0x1F467, 0x200D, 0x1F467],
      "family_man_woman_girl_girl"),
    ([0x1F469, 0x200D, 0x1F466], "family_woman_boy"),
    ([0x1F469, 0x200D, 0x1F466, 0x200D, 0x1F466], "family_woman_boy_boy"),
    ([0x1F469, 0x200D, 0x1F467], "family_woman_girl"),
    ([0x1F469, 0x200D, 0x1F467, 0x200D, 0x1F466], "family_woman_girl_boy"),
    ([0x1F469, 0x200D, 0x1F467, 0x200D, 0x1F467], "family_woman_girl_girl"),
    ([0x1F469, 0x200D, 0x1F469, 0x200D, 0x1F466], "family_woman_woman_boy"),
    ([0x1F469, 0x200D, 0x1F469, 0x200D, 0x1F466, 0x200D, 0x1F466],
      "family_woman_woman_boy_boy"),
    ([0x1F469, 0x200D, 0x1F469, 0x200D, 0x1F467], "family_woman_woman_girl"),
    ([0x1F469, 0x200D, 0x1F469, 0x200D, 0x1F467, 0x200D, 0x1F466],
      "family_woman_woman_girl_boy"),
    ([0x1F469, 0x200D, 0x1F469, 0x200D, 0x1F467, 0x200D, 0x1F467],
      "family_woman_woman_girl_girl"),
    ([0x23E9], "fast-forward_button fast_forward"),
    ([0x23EC], "fast_down_button arrow_double_down"),
    ([0x23EA], "fast_reverse_button rewind"),
    ([0x23EB], "fast_up_button arrow_double_up"),
    ([0x1F4E0], "fax_machine fax"), ([0x1F628], "fearful_face fearful"),
    ([0x2640], "female_sign"), ([0x1F3A1], "ferris_wheel"),
    ([0x26F4], "ferry"),
    ([0x1F3D1], "field_hockey field_hockey_stick_and_ball"),
    ([0x1F5C4], "file_cabinet"), ([0x1F4C1], "file_folder"),
    ([0x1F39E], "film_frames"), ([0x1F4FD], "film_projector"),
    ([0x1F525], "fire"), ([0x1F9EF], "fire_extinguisher"),
    ([0x1F9E8], "firecracker"), ([0x1F692], "fire_engine"),
    ([0x1F386], "fireworks"), ([0x1F313], "first_quarter_moon"),
    ([0x1F31B], "first_quarter_moon_face first_quarter_moon_with_face"),
    ([0x1F41F], "fish"), ([0x1F365], "fish_cake_with_swirl fish_cake"),
    ([0x1F3A3], "fishing_pole fishing_pole_and_fish"),
    ([0x1F560], "five-thirty clock530"), ([0x1F554], "five_o’clock clock5"),
    ([0x26F3], "flag_in_hole golf"), ([0x1F9A9], "flamingo"),
    ([0x1F526], "flashlight"), ([0x1F97F], "flat_shoe"),
    ([0x269C], "fleur-de-lis fleur__de__lis"),
    ([0x1F4AA], "flexed_biceps muscle"),
    ([0x1F4AA, 0x1F3FF], "flexed_biceps_dark_skin_tone"),
    ([0x1F4AA, 0x1F3FB], "flexed_biceps_light_skin_tone"),
    ([0x1F4AA, 0x1F3FE], "flexed_biceps_medium-dark_skin_tone"),
    ([0x1F4AA, 0x1F3FC], "flexed_biceps_medium-light_skin_tone"),
    ([0x1F4AA, 0x1F3FD], "flexed_biceps_medium_skin_tone"),
    ([0x1F4BE], "floppy_disk"), ([0x1F3B4], "flower_playing_cards"),
    ([0x1F633], "flushed_face flushed"), ([0x1F94F], "flying_disc"),
    ([0x1F6F8], "flying_saucer"), ([0x1F32B], "fog"), ([0x1F301], "foggy"),
    ([0x1F64F], "folded_hands pray"),
    ([0x1F64F, 0x1F3FF], "folded_hands_dark_skin_tone"),
    ([0x1F64F, 0x1F3FB], "folded_hands_light_skin_tone"),
    ([0x1F64F, 0x1F3FE], "folded_hands_medium-dark_skin_tone"),
    ([0x1F64F, 0x1F3FC], "folded_hands_medium-light_skin_tone"),
    ([0x1F64F, 0x1F3FD], "folded_hands_medium_skin_tone"), ([0x1F9B6], "foot"),
    ([0x1F463], "footprints"), ([0x1F374], "fork_and_knife"),
    ([0x1F37D], "fork_and_knife_with_plate"), ([0x1F960], "fortune_cookie"),
    ([0x26F2], "fountain"),
    ([0x1F58B], "fountain_pen lower_left_fountain_pen"),
    ([0x1F55F], "four-thirty clock430"), ([0x1F340], "four_leaf_clover"),
    ([0x1F553], "four_o’clock clock4"), ([0x1F98A], "fox_face"),
    ([0x1F5BC], "framed_picture frame_with_picture"),
    ([0x1F35F], "french_fries fries"), ([0x1F364], "fried_shrimp"),
    ([0x1F438], "frog_face frog"),
    ([0x1F425], "front-facing_baby_chick hatched_chick"),
    ([0x2639], "frowning_face white_frowning_face"),
    ([0x1F626], "frowning_face_with_open_mouth frowning"),
    ([0x26FD], "fuel_pump fuelpump"), ([0x1F315], "full_moon"),
    ([0x1F31D], "full_moon_face full_moon_with_face"),
    ([0x26B1], "funeral_urn"), ([0x1F3B2], "game_die"), ([0x1F9C4], "garlic"),
    ([0x2699], "gear"), ([0x1F48E], "gem_stone gem"), ([0x1F9DE], "genie"),
    ([0x1F47B], "ghost"), ([0x1F992], "giraffe"), ([0x1F467], "girl"),
    ([0x1F467, 0x1F3FF], "girl_dark_skin_tone"),
    ([0x1F467, 0x1F3FB], "girl_light_skin_tone"),
    ([0x1F467, 0x1F3FE], "girl_medium-dark_skin_tone"),
    ([0x1F467, 0x1F3FC], "girl_medium-light_skin_tone"),
    ([0x1F467, 0x1F3FD], "girl_medium_skin_tone"),
    ([0x1F95B], "glass_of_milk"), ([0x1F453], "glasses eyeglasses"),
    ([0x1F30E], "globe_showing_americas earth_americas"),
    ([0x1F30F], "globe_showing_asia-australia earth_asia"),
    ([0x1F30D], "globe_showing_europe-africa earth_africa"),
    ([0x1F310], "globe_with_meridians"), ([0x1F9E4], "gloves"),
    ([0x1F31F], "glowing_star star2"), ([0x1F945], "goal_net"),
    ([0x1F410], "goat"), ([0x1F47A], "goblin japanese_goblin"),
    ([0x1F97D], "goggles"), ([0x1F98D], "gorilla"),
    ([0x1F393], "graduation_cap mortar_board"), ([0x1F347], "grapes"),
    ([0x1F34F], "green_apple"), ([0x1F4D7], "green_book"),
    ([0x1F7E2], "green_circle"), ([0x1F49A], "green_heart"),
    ([0x1F957], "green_salad"), ([0x1F7E9], "green_square"),
    ([0x1F62C], "grimacing_face grimacing"),
    ([0x1F63A], "grinning_cat_face smiley_cat"),
    ([0x1F638], "grinning_cat_face_with_smiling_eyes smile_cat"),
    ([0x1F600], "grinning_face grinning"),
    ([0x1F603], "grinning_face_with_big_eyes smiley"),
    ([0x1F604], "grinning_face_with_smiling_eyes smile"),
    ([0x1F605], "grinning_face_with_sweat sweat_smile"),
    ([0x1F606], "grinning_squinting_face laughing satisfied"),
    ([0x1F497], "growing_heart heartpulse"), ([0x1F482], "guard guardsman"),
    ([0x1F482, 0x1F3FF], "guard_dark_skin_tone"),
    ([0x1F482, 0x1F3FB], "guard_light_skin_tone"),
    ([0x1F482, 0x1F3FE], "guard_medium-dark_skin_tone"),
    ([0x1F482, 0x1F3FC], "guard_medium-light_skin_tone"),
    ([0x1F482, 0x1F3FD], "guard_medium_skin_tone"), ([0x1F9AE], "guide_dog"),
    ([0x1F3B8], "guitar"), ([0x1F354], "hamburger"), ([0x1F528], "hammer"),
    ([0x2692], "hammer_and_pick"), ([0x1F6E0], "hammer_and_wrench"),
    ([0x1F439], "hamster_face hamster"),
    ([0x1F590], "hand_with_fingers_splayed raised_hand_with_fingers_splayed"),
    ([0x1F590, 0x1F3FF], "hand_with_fingers_splayed_dark_skin_tone"),
    ([0x1F590, 0x1F3FB], "hand_with_fingers_splayed_light_skin_tone"),
    ([0x1F590, 0x1F3FE], "hand_with_fingers_splayed_medium-dark_skin_tone"),
    ([0x1F590, 0x1F3FC], "hand_with_fingers_splayed_medium-light_skin_tone"),
    ([0x1F590, 0x1F3FD], "hand_with_fingers_splayed_medium_skin_tone"),
    ([0x1F45C], "handbag"), ([0x1F91D], "handshake"),
    ([0x1F423], "hatching_chick"), ([0x1F3A7], "headphone headphones"),
    ([0x1F649], "hear-no-evil_monkey hear_no_evil"),
    ([0x1F49F], "heart_decoration"), ([0x2665], "heart_suit hearts"),
    ([0x1F498], "heart_with_arrow cupid"),
    ([0x1F49D], "heart_with_ribbon gift_heart"),
    ([0x2714], "heavy_check_mark"), ([0x2797], "heavy_division_sign"),
    ([0x1F4B2], "heavy_dollar_sign"),
    ([0x2763],
      "heavy_heart_exclamation heavy_heart_exclamation_mark_ornament"),
    ([0x2B55], "heavy_large_circle o"), ([0x2796], "heavy_minus_sign"),
    ([0x2716], "heavy_multiplication_x"), ([0x2795], "heavy_plus_sign"),
    ([0x1F994], "hedgehog"), ([0x1F681], "helicopter"), ([0x1F33F], "herb"),
    ([0x1F33A], "hibiscus"), ([0x1F460], "high-heeled_shoe high_heel"),
    ([0x1F684], "high-speed_train bullettrain_side"),
    ([0x26A1], "high_voltage zap"), ([0x1F97E], "hiking_boot"),
    ([0x1F6D5], "hindu_temple"), ([0x1F99B], "hippopotamus"),
    ([0x1F573], "hole"), ([0x1F36F], "honey_pot"), ([0x1F41D], "honeybee bee"),
    ([0x1F6A5], "horizontal_traffic_light traffic_light"),
    ([0x1F434], "horse horse_face"), ([0x1F3C7], "horse_racing"),
    ([0x1F3C7, 0x1F3FF], "horse_racing_dark_skin_tone"),
    ([0x1F3C7, 0x1F3FB], "horse_racing_light_skin_tone"),
    ([0x1F3C7, 0x1F3FE], "horse_racing_medium-dark_skin_tone"),
    ([0x1F3C7, 0x1F3FC], "horse_racing_medium-light_skin_tone"),
    ([0x1F3C7, 0x1F3FD], "horse_racing_medium_skin_tone"),
    ([0x1F3E5], "hospital"), ([0x2615], "hot_beverage coffee"),
    ([0x1F32D], "hot_dog"), ([0x1F975], "hot_face"), ([0x1F336], "hot_pepper"),
    ([0x2668], "hot_springs hotsprings"), ([0x1F3E8], "hotel"),
    ([0x231B], "hourglass_done hourglass"),
    ([0x23F3], "hourglass_not_done hourglass_flowing_sand"),
    ([0x1F3E0], "house"), ([0x1F3E1], "house_with_garden"),
    ([0x1F3D8], "houses house_buildings"), ([0x1F917], "hugging_face"),
    ([0x1F4AF], "hundred_points 100"), ([0x1F62F], "hushed_face hushed"),
    ([0x1F9CA], "ice"), ([0x1F368], "ice_cream"),
    ([0x1F3D2], "ice_hockey ice_hockey_stick_and_puck"),
    ([0x26F8], "ice_skate"), ([0x1F4E5], "inbox_tray"),
    ([0x1F4E8], "incoming_envelope"), ([0x261D], "index_pointing_up point_up"),
    ([0x261D, 0x1F3FF], "index_pointing_up_dark_skin_tone"),
    ([0x261D, 0x1F3FB], "index_pointing_up_light_skin_tone"),
    ([0x261D, 0x1F3FE], "index_pointing_up_medium-dark_skin_tone"),
    ([0x261D, 0x1F3FC], "index_pointing_up_medium-light_skin_tone"),
    ([0x261D, 0x1F3FD], "index_pointing_up_medium_skin_tone"),
    ([0x267E], "infinity"), ([0x2139], "information information_source"),
    ([0x1F524], "input_latin_letters abc"),
    ([0x1F521], "input_latin_lowercase abcd"),
    ([0x1F520], "input_latin_uppercase capital_abcd"),
    ([0x1F522], "input_numbers 1234"), ([0x1F523], "input_symbols symbols"),
    ([0x1F383], "jack-o-lantern jack_o_lantern"), ([0x1F456], "jeans"),
    ([0x1F9E9], "jigsaw"), ([0x1F0CF], "joker black_joker"),
    ([0x1F579], "joystick"), ([0x1F54B], "kaaba"), ([0x1F998], "kangaroo"),
    ([0x1F511], "key"), ([0x2328], "keyboard"),
    ([0x23, 0xFE0F, 0x20E3], "keycap_#"), ([0x2A, 0xFE0F, 0x20E3], "keycap_*"),
    ([0x30, 0xFE0F, 0x20E3], "keycap_0 zero"),
    ([0x31, 0xFE0F, 0x20E3], "keycap_1 one"), ([0x1F51F], "keycap_10 ten"),
    ([0x32, 0xFE0F, 0x20E3], "keycap_2 two"),
    ([0x33, 0xFE0F, 0x20E3], "keycap_3 three"),
    ([0x34, 0xFE0F, 0x20E3], "keycap_4 four"),
    ([0x35, 0xFE0F, 0x20E3], "keycap_5 five"),
    ([0x36, 0xFE0F, 0x20E3], "keycap_6 six"),
    ([0x37, 0xFE0F, 0x20E3], "keycap_7 seven"),
    ([0x38, 0xFE0F, 0x20E3], "keycap_8 eight"),
    ([0x39, 0xFE0F, 0x20E3], "keycap_9 nine"), ([0x1F6F4], "kick_scooter"),
    ([0x1F458], "kimono"), ([0x1F48B], "kiss kiss_mark"),
    ([0x1F468, 0x200D, 0x2764, 0xFE0F, 0x200D, 0x1F48B, 0x200D, 0x1F468],
      "kiss_man_man"),
    ([0x1F469, 0x200D, 0x2764, 0xFE0F, 0x200D, 0x1F48B, 0x200D, 0x1F468],
      "kiss_woman_man"),
    ([0x1F469, 0x200D, 0x2764, 0xFE0F, 0x200D, 0x1F48B, 0x200D, 0x1F469],
      "kiss_woman_woman"), ([0x1F63D], "kissing_cat_face kissing_cat"),
    ([0x1F617], "kissing_face kissing"),
    ([0x1F61A], "kissing_face_with_closed_eyes kissing_closed_eyes"),
    ([0x1F619], "kissing_face_with_smiling_eyes kissing_smiling_eyes"),
    ([0x1F52A], "kitchen_knife hocho knife"), ([0x1FA81], "kite"),
    ([0x1F95D], "kiwi_fruit"), ([0x1F428], "koala"), ([0x1F97C], "lab_coat"),
    ([0x1F3F7], "label"), ([0x1F94D], "lacrosse"),
    ([0x1F41E], "lady_beetle beetle"), ([0x1F4BB], "laptop_computer computer"),
    ([0x1F537], "large_blue_diamond"), ([0x1F536], "large_orange_diamond"),
    ([0x1F317], "last_quarter_moon"),
    ([0x1F31C], "last_quarter_moon_face last_quarter_moon_with_face"),
    ([0x23EE], "last_track_button"),
    ([0x23EE], "black_left__pointing_double_triangle_with_vertical_bar"),
    ([0x271D], "latin_cross"), ([0x1F343], "leaf_fluttering_in_wind leaves"),
    ([0x1F96C], "leafy_green"), ([0x1F4D2], "ledger"),
    ([0x1F91B], "left-facing_fist"),
    ([0x1F91B, 0x1F3FF], "left-facing_fist_dark_skin_tone"),
    ([0x1F91B, 0x1F3FB], "left-facing_fist_light_skin_tone"),
    ([0x1F91B, 0x1F3FE], "left-facing_fist_medium-dark_skin_tone"),
    ([0x1F91B, 0x1F3FC], "left-facing_fist_medium-light_skin_tone"),
    ([0x1F91B, 0x1F3FD], "left-facing_fist_medium_skin_tone"),
    ([0x2194], "left-right_arrow left_right_arrow"),
    ([0x2B05], "left_arrow arrow_left"),
    ([0x21AA], "left_arrow_curving_right arrow_right_hook"),
    ([0x1F6C5], "left_luggage"), ([0x1F5E8], "left_speech_bubble"),
    ([0x1F9B5], "leg"), ([0x1F34B], "lemon"), ([0x1F406], "leopard"),
    ([0x1F39A], "level_slider"), ([0x1F4A1], "light_bulb bulb"),
    ([0x1F688], "light_rail"), ([0x1F517], "link"),
    ([0x1F587], "linked_paperclips"), ([0x1F981], "lion_face"),
    ([0x1F484], "lipstick"),
    ([0x1F6AE], "litter_in_bin_sign put_litter_in_its_place"),
    ([0x1F98E], "lizard"), ([0x1F999], "llama"), ([0x1F99E], "lobster"),
    ([0x1F512], "locked lock"),
    ([0x1F510], "locked_with_key closed_lock_with_key"),
    ([0x1F50F], "locked_with_pen lock_with_ink_pen"),
    ([0x1F682], "locomotive steam_locomotive"), ([0x1F36D], "lollipop"),
    ([0x1F9F4], "lotion_bottle"), ([0x1F62D], "loudly_crying_face sob"),
    ([0x1F4E2], "loudspeaker"), ([0x1F91F], "love-you_gesture"),
    ([0x1F91F, 0x1F3FF], "love-you_gesture_dark_skin_tone"),
    ([0x1F91F, 0x1F3FB], "love-you_gesture_light_skin_tone"),
    ([0x1F91F, 0x1F3FE], "love-you_gesture_medium-dark_skin_tone"),
    ([0x1F91F, 0x1F3FC], "love-you_gesture_medium-light_skin_tone"),
    ([0x1F91F, 0x1F3FD], "love-you_gesture_medium_skin_tone"),
    ([0x1F3E9], "love_hotel"), ([0x1F48C], "love_letter"),
    ([0x1F9F3], "luggage"), ([0x1F925], "lying_face"), ([0x1F9D9], "mage"),
    ([0x1F9D9, 0x1F3FF], "mage_dark_skin_tone"),
    ([0x1F9D9, 0x1F3FB], "mage_light_skin_tone"),
    ([0x1F9D9, 0x1F3FE], "mage_medium-dark_skin_tone"),
    ([0x1F9D9, 0x1F3FC], "mage_medium-light_skin_tone"),
    ([0x1F9D9, 0x1F3FD], "mage_medium_skin_tone"), ([0x1F9F2], "magnet"),
    ([0x1F50D], "magnifying_glass_tilted_left mag"),
    ([0x1F50E], "magnifying_glass_tilted_right mag_right"),
    ([0x1F004], "mahjong_red_dragon mahjong"), ([0x2642], "male_sign"),
    ([0x1F468], "man"), ([0x1F46B], "man_and_woman_holding_hands couple"),
    ([0x1F468, 0x200D, 0x1F3A8], "man_artist"),
    ([0x1F468, 0x1F3FF, 0x200D, 0x1F3A8], "man_artist_dark_skin_tone"),
    ([0x1F468, 0x1F3FB, 0x200D, 0x1F3A8], "man_artist_light_skin_tone"),
    ([0x1F468, 0x1F3FE, 0x200D, 0x1F3A8], "man_artist_medium-dark_skin_tone"),
    ([0x1F468, 0x1F3FC, 0x200D, 0x1F3A8], "man_artist_medium-light_skin_tone"),
    ([0x1F468, 0x1F3FD, 0x200D, 0x1F3A8], "man_artist_medium_skin_tone"),
    ([0x1F468, 0x200D, 0x1F680], "man_astronaut"),
    ([0x1F468, 0x1F3FF, 0x200D, 0x1F680], "man_astronaut_dark_skin_tone"),
    ([0x1F468, 0x1F3FB, 0x200D, 0x1F680], "man_astronaut_light_skin_tone"),
    ([0x1F468, 0x1F3FE, 0x200D, 0x1F680],
      "man_astronaut_medium-dark_skin_tone"),
    ([0x1F468, 0x1F3FC, 0x200D, 0x1F680],
      "man_astronaut_medium-light_skin_tone"),
    ([0x1F468, 0x1F3FD, 0x200D, 0x1F680], "man_astronaut_medium_skin_tone"),
    ([0x1F6B4, 0x200D, 0x2642, 0xFE0F], "man_biking"),
    ([0x1F6B4, 0x1F3FF, 0x200D, 0x2642, 0xFE0F], "man_biking_dark_skin_tone"),
    ([0x1F6B4, 0x1F3FB, 0x200D, 0x2642, 0xFE0F], "man_biking_light_skin_tone"),
    ([0x1F6B4, 0x1F3FE, 0x200D, 0x2642, 0xFE0F],
      "man_biking_medium-dark_skin_tone"),
    ([0x1F6B4, 0x1F3FC, 0x200D, 0x2642, 0xFE0F],
      "man_biking_medium-light_skin_tone"),
    ([0x1F6B4, 0x1F3FD, 0x200D, 0x2642, 0xFE0F],
      "man_biking_medium_skin_tone"),
    ([0x26F9, 0xFE0F, 0x200D, 0x2642, 0xFE0F], "man_bouncing_ball"),
    ([0x26F9, 0x1F3FF, 0x200D, 0x2642, 0xFE0F],
      "man_bouncing_ball_dark_skin_tone"),
    ([0x26F9, 0x1F3FB, 0x200D, 0x2642, 0xFE0F],
      "man_bouncing_ball_light_skin_tone"),
    ([0x26F9, 0x1F3FE, 0x200D, 0x2642, 0xFE0F],
      "man_bouncing_ball_medium-dark_skin_tone"),
    ([0x26F9, 0x1F3FC, 0x200D, 0x2642, 0xFE0F],
      "man_bouncing_ball_medium-light_skin_tone"),
    ([0x26F9, 0x1F3FD, 0x200D, 0x2642, 0xFE0F],
      "man_bouncing_ball_medium_skin_tone"),
    ([0x1F647, 0x200D, 0x2642, 0xFE0F], "man_bowing"),
    ([0x1F647, 0x1F3FF, 0x200D, 0x2642, 0xFE0F], "man_bowing_dark_skin_tone"),
    ([0x1F647, 0x1F3FB, 0x200D, 0x2642, 0xFE0F], "man_bowing_light_skin_tone"),
    ([0x1F647, 0x1F3FE, 0x200D, 0x2642, 0xFE0F],
      "man_bowing_medium-dark_skin_tone"),
    ([0x1F647, 0x1F3FC, 0x200D, 0x2642, 0xFE0F],
      "man_bowing_medium-light_skin_tone"),
    ([0x1F647, 0x1F3FD, 0x200D, 0x2642, 0xFE0F],
      "man_bowing_medium_skin_tone"),
    ([0x1F938, 0x200D, 0x2642, 0xFE0F], "man_cartwheeling"),
    ([0x1F938, 0x1F3FF, 0x200D, 0x2642, 0xFE0F],
      "man_cartwheeling_dark_skin_tone"),
    ([0x1F938, 0x1F3FB, 0x200D, 0x2642, 0xFE0F],
      "man_cartwheeling_light_skin_tone"),
    ([0x1F938, 0x1F3FE, 0x200D, 0x2642, 0xFE0F],
      "man_cartwheeling_medium-dark_skin_tone"),
    ([0x1F938, 0x1F3FC, 0x200D, 0x2642, 0xFE0F],
      "man_cartwheeling_medium-light_skin_tone"),
    ([0x1F938, 0x1F3FD, 0x200D, 0x2642, 0xFE0F],
      "man_cartwheeling_medium_skin_tone"),
    ([0x1F9D7, 0x200D, 0x2642, 0xFE0F], "man_climbing"),
    ([0x1F9D7, 0x1F3FF, 0x200D, 0x2642, 0xFE0F],
      "man_climbing_dark_skin_tone"),
    ([0x1F9D7, 0x1F3FB, 0x200D, 0x2642, 0xFE0F],
      "man_climbing_light_skin_tone"),
    ([0x1F9D7, 0x1F3FE, 0x200D, 0x2642, 0xFE0F],
      "man_climbing_medium-dark_skin_tone"),
    ([0x1F9D7, 0x1F3FC, 0x200D, 0x2642, 0xFE0F],
      "man_climbing_medium-light_skin_tone"),
    ([0x1F9D7, 0x1F3FD, 0x200D, 0x2642, 0xFE0F],
      "man_climbing_medium_skin_tone"),
    ([0x1F477, 0x200D, 0x2642, 0xFE0F], "man_construction_worker"),
    ([0x1F477, 0x1F3FF, 0x200D, 0x2642, 0xFE0F],
      "man_construction_worker_dark_skin_tone"),
    ([0x1F477, 0x1F3FB, 0x200D, 0x2642, 0xFE0F],
      "man_construction_worker_light_skin_tone"),
    ([0x1F477, 0x1F3FE, 0x200D, 0x2642, 0xFE0F],
      "man_construction_worker_medium-dark_skin_tone"),
    ([0x1F477, 0x1F3FC, 0x200D, 0x2642, 0xFE0F],
      "man_construction_worker_medium-light_skin_tone"),
    ([0x1F477, 0x1F3FD, 0x200D, 0x2642, 0xFE0F],
      "man_construction_worker_medium_skin_tone"),
    ([0x1F468, 0x200D, 0x1F373], "man_cook"),
    ([0x1F468, 0x1F3FF, 0x200D, 0x1F373], "man_cook_dark_skin_tone"),
    ([0x1F468, 0x1F3FB, 0x200D, 0x1F373], "man_cook_light_skin_tone"),
    ([0x1F468, 0x1F3FE, 0x200D, 0x1F373], "man_cook_medium-dark_skin_tone"),
    ([0x1F468, 0x1F3FC, 0x200D, 0x1F373], "man_cook_medium-light_skin_tone"),
    ([0x1F468, 0x1F3FD, 0x200D, 0x1F373], "man_cook_medium_skin_tone"),
    ([0x1F57A], "man_dancing"),
    ([0x1F57A, 0x1F3FF], "man_dancing_dark_skin_tone"),
    ([0x1F57A, 0x1F3FB], "man_dancing_light_skin_tone"),
    ([0x1F57A, 0x1F3FE], "man_dancing_medium-dark_skin_tone"),
    ([0x1F57A, 0x1F3FC], "man_dancing_medium-light_skin_tone"),
    ([0x1F57A, 0x1F3FD], "man_dancing_medium_skin_tone"),
    ([0x1F468, 0x1F3FF], "man_dark_skin_tone"),
    ([0x1F575, 0xFE0F, 0x200D, 0x2642, 0xFE0F], "man_detective"),
    ([0x1F575, 0x1F3FF, 0x200D, 0x2642, 0xFE0F],
      "man_detective_dark_skin_tone"),
    ([0x1F575, 0x1F3FB, 0x200D, 0x2642, 0xFE0F],
      "man_detective_light_skin_tone"),
    ([0x1F575, 0x1F3FE, 0x200D, 0x2642, 0xFE0F],
      "man_detective_medium-dark_skin_tone"),
    ([0x1F575, 0x1F3FC, 0x200D, 0x2642, 0xFE0F],
      "man_detective_medium-light_skin_tone"),
    ([0x1F575, 0x1F3FD, 0x200D, 0x2642, 0xFE0F],
      "man_detective_medium_skin_tone"),
    ([0x1F9DD, 0x200D, 0x2642, 0xFE0F], "man_elf"),
    ([0x1F9DD, 0x1F3FF, 0x200D, 0x2642, 0xFE0F], "man_elf_dark_skin_tone"),
    ([0x1F9DD, 0x1F3FB, 0x200D, 0x2642, 0xFE0F], "man_elf_light_skin_tone"),
    ([0x1F9DD, 0x1F3FE, 0x200D, 0x2642, 0xFE0F],
      "man_elf_medium-dark_skin_tone"),
    ([0x1F9DD, 0x1F3FC, 0x200D, 0x2642, 0xFE0F],
      "man_elf_medium-light_skin_tone"),
    ([0x1F9DD, 0x1F3FD, 0x200D, 0x2642, 0xFE0F], "man_elf_medium_skin_tone"),
    ([0x1F926, 0x200D, 0x2642, 0xFE0F], "man_facepalming"),
    ([0x1F926, 0x1F3FF, 0x200D, 0x2642, 0xFE0F],
      "man_facepalming_dark_skin_tone"),
    ([0x1F926, 0x1F3FB, 0x200D, 0x2642, 0xFE0F],
      "man_facepalming_light_skin_tone"),
    ([0x1F926, 0x1F3FE, 0x200D, 0x2642, 0xFE0F],
      "man_facepalming_medium-dark_skin_tone"),
    ([0x1F926, 0x1F3FC, 0x200D, 0x2642, 0xFE0F],
      "man_facepalming_medium-light_skin_tone"),
    ([0x1F926, 0x1F3FD, 0x200D, 0x2642, 0xFE0F],
      "man_facepalming_medium_skin_tone"),
    ([0x1F468, 0x200D, 0x1F3ED], "man_factory_worker"),
    ([0x1F468, 0x1F3FF, 0x200D, 0x1F3ED], "man_factory_worker_dark_skin_tone"),
    ([0x1F468, 0x1F3FB, 0x200D, 0x1F3ED],
      "man_factory_worker_light_skin_tone"),
    ([0x1F468, 0x1F3FE, 0x200D, 0x1F3ED],
      "man_factory_worker_medium-dark_skin_tone"),
    ([0x1F468, 0x1F3FC, 0x200D, 0x1F3ED],
      "man_factory_worker_medium-light_skin_tone"),
    ([0x1F468, 0x1F3FD, 0x200D, 0x1F3ED],
      "man_factory_worker_medium_skin_tone"),
    ([0x1F9DA, 0x200D, 0x2642, 0xFE0F], "man_fairy"),
    ([0x1F9DA, 0x1F3FF, 0x200D, 0x2642, 0xFE0F], "man_fairy_dark_skin_tone"),
    ([0x1F9DA, 0x1F3FB, 0x200D, 0x2642, 0xFE0F], "man_fairy_light_skin_tone"),
    ([0x1F9DA, 0x1F3FE, 0x200D, 0x2642, 0xFE0F],
      "man_fairy_medium-dark_skin_tone"),
    ([0x1F9DA, 0x1F3FC, 0x200D, 0x2642, 0xFE0F],
      "man_fairy_medium-light_skin_tone"),
    ([0x1F9DA, 0x1F3FD, 0x200D, 0x2642, 0xFE0F], "man_fairy_medium_skin_tone"),
    ([0x1F468, 0x200D, 0x1F33E], "man_farmer"),
    ([0x1F468, 0x1F3FF, 0x200D, 0x1F33E], "man_farmer_dark_skin_tone"),
    ([0x1F468, 0x1F3FB, 0x200D, 0x1F33E], "man_farmer_light_skin_tone"),
    ([0x1F468, 0x1F3FE, 0x200D, 0x1F33E], "man_farmer_medium-dark_skin_tone"),
    ([0x1F468, 0x1F3FC, 0x200D, 0x1F33E], "man_farmer_medium-light_skin_tone"),
    ([0x1F468, 0x1F3FD, 0x200D, 0x1F33E], "man_farmer_medium_skin_tone"),
    ([0x1F468, 0x200D, 0x1F692], "man_firefighter"),
    ([0x1F468, 0x1F3FF, 0x200D, 0x1F692], "man_firefighter_dark_skin_tone"),
    ([0x1F468, 0x1F3FB, 0x200D, 0x1F692], "man_firefighter_light_skin_tone"),
    ([0x1F468, 0x1F3FE, 0x200D, 0x1F692],
      "man_firefighter_medium-dark_skin_tone"),
    ([0x1F468, 0x1F3FC, 0x200D, 0x1F692],
      "man_firefighter_medium-light_skin_tone"),
    ([0x1F468, 0x1F3FD, 0x200D, 0x1F692], "man_firefighter_medium_skin_tone"),
    ([0x1F64D, 0x200D, 0x2642, 0xFE0F], "man_frowning"),
    ([0x1F64D, 0x1F3FF, 0x200D, 0x2642, 0xFE0F],
      "man_frowning_dark_skin_tone"),
    ([0x1F64D, 0x1F3FB, 0x200D, 0x2642, 0xFE0F],
      "man_frowning_light_skin_tone"),
    ([0x1F64D, 0x1F3FE, 0x200D, 0x2642, 0xFE0F],
      "man_frowning_medium-dark_skin_tone"),
    ([0x1F64D, 0x1F3FC, 0x200D, 0x2642, 0xFE0F],
      "man_frowning_medium-light_skin_tone"),
    ([0x1F64D, 0x1F3FD, 0x200D, 0x2642, 0xFE0F],
      "man_frowning_medium_skin_tone"),
    ([0x1F9DE, 0x200D, 0x2642, 0xFE0F], "man_genie"),
    ([0x1F645, 0x200D, 0x2642, 0xFE0F], "man_gesturing_no"),
    ([0x1F645, 0x1F3FF, 0x200D, 0x2642, 0xFE0F],
      "man_gesturing_no_dark_skin_tone"),
    ([0x1F645, 0x1F3FB, 0x200D, 0x2642, 0xFE0F],
      "man_gesturing_no_light_skin_tone"),
    ([0x1F645, 0x1F3FE, 0x200D, 0x2642, 0xFE0F],
      "man_gesturing_no_medium-dark_skin_tone"),
    ([0x1F645, 0x1F3FC, 0x200D, 0x2642, 0xFE0F],
      "man_gesturing_no_medium-light_skin_tone"),
    ([0x1F645, 0x1F3FD, 0x200D, 0x2642, 0xFE0F],
      "man_gesturing_no_medium_skin_tone"),
    ([0x1F646, 0x200D, 0x2642, 0xFE0F], "man_gesturing_ok"),
    ([0x1F646, 0x1F3FF, 0x200D, 0x2642, 0xFE0F],
      "man_gesturing_ok_dark_skin_tone"),
    ([0x1F646, 0x1F3FB, 0x200D, 0x2642, 0xFE0F],
      "man_gesturing_ok_light_skin_tone"),
    ([0x1F646, 0x1F3FE, 0x200D, 0x2642, 0xFE0F],
      "man_gesturing_ok_medium-dark_skin_tone"),
    ([0x1F646, 0x1F3FC, 0x200D, 0x2642, 0xFE0F],
      "man_gesturing_ok_medium-light_skin_tone"),
    ([0x1F646, 0x1F3FD, 0x200D, 0x2642, 0xFE0F],
      "man_gesturing_ok_medium_skin_tone"),
    ([0x1F487, 0x200D, 0x2642, 0xFE0F], "man_getting_haircut"),
    ([0x1F487, 0x1F3FF, 0x200D, 0x2642, 0xFE0F],
      "man_getting_haircut_dark_skin_tone"),
    ([0x1F487, 0x1F3FB, 0x200D, 0x2642, 0xFE0F],
      "man_getting_haircut_light_skin_tone"),
    ([0x1F487, 0x1F3FE, 0x200D, 0x2642, 0xFE0F],
      "man_getting_haircut_medium-dark_skin_tone"),
    ([0x1F487, 0x1F3FC, 0x200D, 0x2642, 0xFE0F],
      "man_getting_haircut_medium-light_skin_tone"),
    ([0x1F487, 0x1F3FD, 0x200D, 0x2642, 0xFE0F],
      "man_getting_haircut_medium_skin_tone"),
    ([0x1F486, 0x200D, 0x2642, 0xFE0F], "man_getting_massage"),
    ([0x1F486, 0x1F3FF, 0x200D, 0x2642, 0xFE0F],
      "man_getting_massage_dark_skin_tone"),
    ([0x1F486, 0x1F3FB, 0x200D, 0x2642, 0xFE0F],
      "man_getting_massage_light_skin_tone"),
    ([0x1F486, 0x1F3FE, 0x200D, 0x2642, 0xFE0F],
      "man_getting_massage_medium-dark_skin_tone"),
    ([0x1F486, 0x1F3FC, 0x200D, 0x2642, 0xFE0F],
      "man_getting_massage_medium-light_skin_tone"),
    ([0x1F486, 0x1F3FD, 0x200D, 0x2642, 0xFE0F],
      "man_getting_massage_medium_skin_tone"),
    ([0x1F3CC, 0xFE0F, 0x200D, 0x2642, 0xFE0F], "man_golfing"),
    ([0x1F3CC, 0x1F3FF, 0x200D, 0x2642, 0xFE0F], "man_golfing_dark_skin_tone"),
    ([0x1F3CC, 0x1F3FB, 0x200D, 0x2642, 0xFE0F],
      "man_golfing_light_skin_tone"),
    ([0x1F3CC, 0x1F3FE, 0x200D, 0x2642, 0xFE0F],
      "man_golfing_medium-dark_skin_tone"),
    ([0x1F3CC, 0x1F3FC, 0x200D, 0x2642, 0xFE0F],
      "man_golfing_medium-light_skin_tone"),
    ([0x1F3CC, 0x1F3FD, 0x200D, 0x2642, 0xFE0F],
      "man_golfing_medium_skin_tone"),
    ([0x1F482, 0x200D, 0x2642, 0xFE0F], "man_guard"),
    ([0x1F482, 0x1F3FF, 0x200D, 0x2642, 0xFE0F], "man_guard_dark_skin_tone"),
    ([0x1F482, 0x1F3FB, 0x200D, 0x2642, 0xFE0F], "man_guard_light_skin_tone"),
    ([0x1F482, 0x1F3FE, 0x200D, 0x2642, 0xFE0F],
      "man_guard_medium-dark_skin_tone"),
    ([0x1F482, 0x1F3FC, 0x200D, 0x2642, 0xFE0F],
      "man_guard_medium-light_skin_tone"),
    ([0x1F482, 0x1F3FD, 0x200D, 0x2642, 0xFE0F], "man_guard_medium_skin_tone"),
    ([0x1F468, 0x200D, 0x2695, 0xFE0F], "man_health_worker"),
    ([0x1F468, 0x1F3FF, 0x200D, 0x2695, 0xFE0F],
      "man_health_worker_dark_skin_tone"),
    ([0x1F468, 0x1F3FB, 0x200D, 0x2695, 0xFE0F],
      "man_health_worker_light_skin_tone"),
    ([0x1F468, 0x1F3FE, 0x200D, 0x2695, 0xFE0F],
      "man_health_worker_medium-dark_skin_tone"),
    ([0x1F468, 0x1F3FC, 0x200D, 0x2695, 0xFE0F],
      "man_health_worker_medium-light_skin_tone"),
    ([0x1F468, 0x1F3FD, 0x200D, 0x2695, 0xFE0F],
      "man_health_worker_medium_skin_tone"),
    ([0x1F9D8, 0x200D, 0x2642, 0xFE0F], "man_in_lotus_position"),
    ([0x1F9D8, 0x1F3FF, 0x200D, 0x2642, 0xFE0F],
      "man_in_lotus_position_dark_skin_tone"),
    ([0x1F9D8, 0x1F3FB, 0x200D, 0x2642, 0xFE0F],
      "man_in_lotus_position_light_skin_tone"),
    ([0x1F9D8, 0x1F3FE, 0x200D, 0x2642, 0xFE0F],
      "man_in_lotus_position_medium-dark_skin_tone"),
    ([0x1F9D8, 0x1F3FC, 0x200D, 0x2642, 0xFE0F],
      "man_in_lotus_position_medium-light_skin_tone"),
    ([0x1F9D8, 0x1F3FD, 0x200D, 0x2642, 0xFE0F],
      "man_in_lotus_position_medium_skin_tone"),
    ([0x1F468, 0x200D, 0x1F9BD], "man_in_manual_wheelchair"),
    ([0x1F468, 0x200D, 0x1F9BC], "man_in_motorized_wheelchair"),
    ([0x1F9D6, 0x200D, 0x2642, 0xFE0F], "man_in_steamy_room"),
    ([0x1F9D6, 0x1F3FF, 0x200D, 0x2642, 0xFE0F],
      "man_in_steamy_room_dark_skin_tone"),
    ([0x1F9D6, 0x1F3FB, 0x200D, 0x2642, 0xFE0F],
      "man_in_steamy_room_light_skin_tone"),
    ([0x1F9D6, 0x1F3FE, 0x200D, 0x2642, 0xFE0F],
      "man_in_steamy_room_medium-dark_skin_tone"),
    ([0x1F9D6, 0x1F3FC, 0x200D, 0x2642, 0xFE0F],
      "man_in_steamy_room_medium-light_skin_tone"),
    ([0x1F9D6, 0x1F3FD, 0x200D, 0x2642, 0xFE0F],
      "man_in_steamy_room_medium_skin_tone"),
    ([0x1F574], "man_in_suit_levitating man_in_business_suit_levitating"),
    ([0x1F574, 0x1F3FF], "man_in_suit_levitating_dark_skin_tone"),
    ([0x1F574, 0x1F3FB], "man_in_suit_levitating_light_skin_tone"),
    ([0x1F574, 0x1F3FE], "man_in_suit_levitating_medium-dark_skin_tone"),
    ([0x1F574, 0x1F3FC], "man_in_suit_levitating_medium-light_skin_tone"),
    ([0x1F574, 0x1F3FD], "man_in_suit_levitating_medium_skin_tone"),
    ([0x1F935], "man_in_tuxedo"),
    ([0x1F935, 0x1F3FF], "man_in_tuxedo_dark_skin_tone"),
    ([0x1F935, 0x1F3FB], "man_in_tuxedo_light_skin_tone"),
    ([0x1F935, 0x1F3FE], "man_in_tuxedo_medium-dark_skin_tone"),
    ([0x1F935, 0x1F3FC], "man_in_tuxedo_medium-light_skin_tone"),
    ([0x1F935, 0x1F3FD], "man_in_tuxedo_medium_skin_tone"),
    ([0x1F468, 0x200D, 0x2696, 0xFE0F], "man_judge"),
    ([0x1F468, 0x1F3FF, 0x200D, 0x2696, 0xFE0F], "man_judge_dark_skin_tone"),
    ([0x1F468, 0x1F3FB, 0x200D, 0x2696, 0xFE0F], "man_judge_light_skin_tone"),
    ([0x1F468, 0x1F3FE, 0x200D, 0x2696, 0xFE0F],
      "man_judge_medium-dark_skin_tone"),
    ([0x1F468, 0x1F3FC, 0x200D, 0x2696, 0xFE0F],
      "man_judge_medium-light_skin_tone"),
    ([0x1F468, 0x1F3FD, 0x200D, 0x2696, 0xFE0F], "man_judge_medium_skin_tone"),
    ([0x1F939, 0x200D, 0x2642, 0xFE0F], "man_juggling"),
    ([0x1F939, 0x1F3FF, 0x200D, 0x2642, 0xFE0F],
      "man_juggling_dark_skin_tone"),
    ([0x1F939, 0x1F3FB, 0x200D, 0x2642, 0xFE0F],
      "man_juggling_light_skin_tone"),
    ([0x1F939, 0x1F3FE, 0x200D, 0x2642, 0xFE0F],
      "man_juggling_medium-dark_skin_tone"),
    ([0x1F939, 0x1F3FC, 0x200D, 0x2642, 0xFE0F],
      "man_juggling_medium-light_skin_tone"),
    ([0x1F939, 0x1F3FD, 0x200D, 0x2642, 0xFE0F],
      "man_juggling_medium_skin_tone"),
    ([0x1F3CB, 0xFE0F, 0x200D, 0x2642, 0xFE0F], "man_lifting_weights"),
    ([0x1F3CB, 0x1F3FF, 0x200D, 0x2642, 0xFE0F],
      "man_lifting_weights_dark_skin_tone"),
    ([0x1F3CB, 0x1F3FB, 0x200D, 0x2642, 0xFE0F],
      "man_lifting_weights_light_skin_tone"),
    ([0x1F3CB, 0x1F3FE, 0x200D, 0x2642, 0xFE0F],
      "man_lifting_weights_medium-dark_skin_tone"),
    ([0x1F3CB, 0x1F3FC, 0x200D, 0x2642, 0xFE0F],
      "man_lifting_weights_medium-light_skin_tone"),
    ([0x1F3CB, 0x1F3FD, 0x200D, 0x2642, 0xFE0F],
      "man_lifting_weights_medium_skin_tone"),
    ([0x1F468, 0x1F3FB], "man_light_skin_tone"),
    ([0x1F9D9, 0x200D, 0x2642, 0xFE0F], "man_mage"),
    ([0x1F9D9, 0x1F3FF, 0x200D, 0x2642, 0xFE0F], "man_mage_dark_skin_tone"),
    ([0x1F9D9, 0x1F3FB, 0x200D, 0x2642, 0xFE0F], "man_mage_light_skin_tone"),
    ([0x1F9D9, 0x1F3FE, 0x200D, 0x2642, 0xFE0F],
      "man_mage_medium-dark_skin_tone"),
    ([0x1F9D9, 0x1F3FC, 0x200D, 0x2642, 0xFE0F],
      "man_mage_medium-light_skin_tone"),
    ([0x1F9D9, 0x1F3FD, 0x200D, 0x2642, 0xFE0F], "man_mage_medium_skin_tone"),
    ([0x1F468, 0x200D, 0x1F527], "man_mechanic"),
    ([0x1F468, 0x1F3FF, 0x200D, 0x1F527], "man_mechanic_dark_skin_tone"),
    ([0x1F468, 0x1F3FB, 0x200D, 0x1F527], "man_mechanic_light_skin_tone"),
    ([0x1F468, 0x1F3FE, 0x200D, 0x1F527],
      "man_mechanic_medium-dark_skin_tone"),
    ([0x1F468, 0x1F3FC, 0x200D, 0x1F527],
      "man_mechanic_medium-light_skin_tone"),
    ([0x1F468, 0x1F3FD, 0x200D, 0x1F527], "man_mechanic_medium_skin_tone"),
    ([0x1F468, 0x1F3FE], "man_medium-dark_skin_tone"),
    ([0x1F468, 0x1F3FC], "man_medium-light_skin_tone"),
    ([0x1F468, 0x1F3FD], "man_medium_skin_tone"),
    ([0x1F6B5, 0x200D, 0x2642, 0xFE0F], "man_mountain_biking"),
    ([0x1F6B5, 0x1F3FF, 0x200D, 0x2642, 0xFE0F],
      "man_mountain_biking_dark_skin_tone"),
    ([0x1F6B5, 0x1F3FB, 0x200D, 0x2642, 0xFE0F],
      "man_mountain_biking_light_skin_tone"),
    ([0x1F6B5, 0x1F3FE, 0x200D, 0x2642, 0xFE0F],
      "man_mountain_biking_medium-dark_skin_tone"),
    ([0x1F6B5, 0x1F3FC, 0x200D, 0x2642, 0xFE0F],
      "man_mountain_biking_medium-light_skin_tone"),
    ([0x1F6B5, 0x1F3FD, 0x200D, 0x2642, 0xFE0F],
      "man_mountain_biking_medium_skin_tone"),
    ([0x1F468, 0x200D, 0x1F4BC], "man_office_worker"),
    ([0x1F468, 0x1F3FF, 0x200D, 0x1F4BC], "man_office_worker_dark_skin_tone"),
    ([0x1F468, 0x1F3FB, 0x200D, 0x1F4BC], "man_office_worker_light_skin_tone"),
    ([0x1F468, 0x1F3FE, 0x200D, 0x1F4BC],
      "man_office_worker_medium-dark_skin_tone"),
    ([0x1F468, 0x1F3FC, 0x200D, 0x1F4BC],
      "man_office_worker_medium-light_skin_tone"),
    ([0x1F468, 0x1F3FD, 0x200D, 0x1F4BC],
      "man_office_worker_medium_skin_tone"),
    ([0x1F468, 0x200D, 0x2708, 0xFE0F], "man_pilot"),
    ([0x1F468, 0x1F3FF, 0x200D, 0x2708, 0xFE0F], "man_pilot_dark_skin_tone"),
    ([0x1F468, 0x1F3FB, 0x200D, 0x2708, 0xFE0F], "man_pilot_light_skin_tone"),
    ([0x1F468, 0x1F3FE, 0x200D, 0x2708, 0xFE0F],
      "man_pilot_medium-dark_skin_tone"),
    ([0x1F468, 0x1F3FC, 0x200D, 0x2708, 0xFE0F],
      "man_pilot_medium-light_skin_tone"),
    ([0x1F468, 0x1F3FD, 0x200D, 0x2708, 0xFE0F], "man_pilot_medium_skin_tone"),
    ([0x1F93E, 0x200D, 0x2642, 0xFE0F], "man_playing_handball"),
    ([0x1F93E, 0x1F3FF, 0x200D, 0x2642, 0xFE0F],
      "man_playing_handball_dark_skin_tone"),
    ([0x1F93E, 0x1F3FB, 0x200D, 0x2642, 0xFE0F],
      "man_playing_handball_light_skin_tone"),
    ([0x1F93E, 0x1F3FE, 0x200D, 0x2642, 0xFE0F],
      "man_playing_handball_medium-dark_skin_tone"),
    ([0x1F93E, 0x1F3FC, 0x200D, 0x2642, 0xFE0F],
      "man_playing_handball_medium-light_skin_tone"),
    ([0x1F93E, 0x1F3FD, 0x200D, 0x2642, 0xFE0F],
      "man_playing_handball_medium_skin_tone"),
    ([0x1F93D, 0x200D, 0x2642, 0xFE0F], "man_playing_water_polo"),
    ([0x1F93D, 0x1F3FF, 0x200D, 0x2642, 0xFE0F],
      "man_playing_water_polo_dark_skin_tone"),
    ([0x1F93D, 0x1F3FB, 0x200D, 0x2642, 0xFE0F],
      "man_playing_water_polo_light_skin_tone"),
    ([0x1F93D, 0x1F3FE, 0x200D, 0x2642, 0xFE0F],
      "man_playing_water_polo_medium-dark_skin_tone"),
    ([0x1F93D, 0x1F3FC, 0x200D, 0x2642, 0xFE0F],
      "man_playing_water_polo_medium-light_skin_tone"),
    ([0x1F93D, 0x1F3FD, 0x200D, 0x2642, 0xFE0F],
      "man_playing_water_polo_medium_skin_tone"),
    ([0x1F46E, 0x200D, 0x2642, 0xFE0F], "man_police_officer"),
    ([0x1F46E, 0x1F3FF, 0x200D, 0x2642, 0xFE0F],
      "man_police_officer_dark_skin_tone"),
    ([0x1F46E, 0x1F3FB, 0x200D, 0x2642, 0xFE0F],
      "man_police_officer_light_skin_tone"),
    ([0x1F46E, 0x1F3FE, 0x200D, 0x2642, 0xFE0F],
      "man_police_officer_medium-dark_skin_tone"),
    ([0x1F46E, 0x1F3FC, 0x200D, 0x2642, 0xFE0F],
      "man_police_officer_medium-light_skin_tone"),
    ([0x1F46E, 0x1F3FD, 0x200D, 0x2642, 0xFE0F],
      "man_police_officer_medium_skin_tone"),
    ([0x1F64E, 0x200D, 0x2642, 0xFE0F], "man_pouting"),
    ([0x1F64E, 0x1F3FF, 0x200D, 0x2642, 0xFE0F], "man_pouting_dark_skin_tone"),
    ([0x1F64E, 0x1F3FB, 0x200D, 0x2642, 0xFE0F],
      "man_pouting_light_skin_tone"),
    ([0x1F64E, 0x1F3FE, 0x200D, 0x2642, 0xFE0F],
      "man_pouting_medium-dark_skin_tone") ]

/-- Rows of names, part 3 of 4. -/
def rowsC : List (List Nat × String) :=
  [ ([0x1F64E, 0x1F3FC, 0x200D, 0x2642, 0xFE0F],
      "man_pouting_medium-light_skin_tone"),
    ([0x1F64E, 0x1F3FD, 0x200D, 0x2642, 0xFE0F],
      "man_pouting_medium_skin_tone"),
    ([0x1F64B, 0x200D, 0x2642, 0xFE0F], "man_raising_hand"),
    ([0x1F64B, 0x1F3FF, 0x200D, 0x2642, 0xFE0F],
      "man_raising_hand_dark_skin_tone"),
    ([0x1F64B, 0x1F3FB, 0x200D, 0x2642, 0xFE0F],
      "man_raising_hand_light_skin_tone"),
    ([0x1F64B, 0x1F3FE, 0x200D, 0x2642, 0xFE0F],
      "man_raising_hand_medium-dark_skin_tone"),
    ([0x1F64B, 0x1F3FC, 0x200D, 0x2642, 0xFE0F],
      "man_raising_hand_medium-light_skin_tone"),
    ([0x1F64B, 0x1F3FD, 0x200D, 0x2642, 0xFE0F],
      "man_raising_hand_medium_skin_tone"),
    ([0x1F6A3, 0x200D, 0x2642, 0xFE0F], "man_rowing_boat"),
    ([0x1F6A3, 0x1F3FF, 0x200D, 0x2642, 0xFE0F],
      "man_rowing_boat_dark_skin_tone"),
    ([0x1F6A3, 0x1F3FB, 0x200D, 0x2642, 0xFE0F],
      "man_rowing_boat_light_skin_tone"),
    ([0x1F6A3, 0x1F3FE, 0x200D, 0x2642, 0xFE0F],
      "man_rowing_boat_medium-dark_skin_tone"),
    ([0x1F6A3, 0x1F3FC, 0x200D, 0x2642, 0xFE0F],
      "man_rowing_boat_medium-light_skin_tone"),
    ([0x1F6A3, 0x1F3FD, 0x200D, 0x2642, 0xFE0F],
      "man_rowing_boat_medium_skin_tone"),
    ([0x1F3C3, 0x200D, 0x2642, 0xFE0F], "man_running"),
    ([0x1F3C3, 0x1F3FF, 0x200D, 0x2642, 0xFE0F], "man_running_dark_skin_tone"),
    ([0x1F3C3, 0x1F3FB, 0x200D, 0x2642, 0xFE0F],
      "man_running_light_skin_tone"),
    ([0x1F3C3, 0x1F3FE, 0x200D, 0x2642, 0xFE0F],
      "man_running_medium-dark_skin_tone"),
    ([0x1F3C3, 0x1F3FC, 0x200D, 0x2642, 0xFE0F],
      "man_running_medium-light_skin_tone"),
    ([0x1F3C3, 0x1F3FD, 0x200D, 0x2642, 0xFE0F],
      "man_running_medium_skin_tone"),
    ([0x1F468, 0x200D, 0x1F52C], "man_scientist"),
    ([0x1F468, 0x1F3FF, 0x200D, 0x1F52C], "man_scientist_dark_skin_tone"),
    ([0x1F468, 0x1F3FB, 0x200D, 0x1F52C], "man_scientist_light_skin_tone"),
    ([0x1F468, 0x1F3FE, 0x200D, 0x1F52C],
      "man_scientist_medium-dark_skin_tone"),
    ([0x1F468, 0x1F3FC, 0x200D, 0x1F52C],
      "man_scientist_medium-light_skin_tone"),
    ([0x1F468, 0x1F3FD, 0x200D, 0x1F52C], "man_scientist_medium_skin_tone"),
    ([0x1F937, 0x200D, 0x2642, 0xFE0F], "man_shrugging"),
    ([0x1F937, 0x1F3FF, 0x200D, 0x2642, 0xFE0F],
      "man_shrugging_dark_skin_tone"),
    ([0x1F937, 0x1F3FB, 0x200D, 0x2642, 0xFE0F],
      "man_shrugging_light_skin_tone"),
    ([0x1F937, 0x1F3FE, 0x200D, 0x2642, 0xFE0F],
      "man_shrugging_medium-dark_skin_tone"),
    ([0x1F937, 0x1F3FC, 0x200D, 0x2642, 0xFE0F],
      "man_shrugging_medium-light_skin_tone"),
    ([0x1F937, 0x1F3FD, 0x200D, 0x2642, 0xFE0F],
      "man_shrugging_medium_skin_tone"),
    ([0x1F468, 0x200D, 0x1F3A4], "man_singer"),
    ([0x1F468, 0x1F3FF, 0x200D, 0x1F3A4], "man_singer_dark_skin_tone"),
    ([0x1F468, 0x1F3FB, 0x200D, 0x1F3A4], "man_singer_light_skin_tone"),
    ([0x1F468, 0x1F3FE, 0x200D, 0x1F3A4], "man_singer_medium-dark_skin_tone"),
    ([0x1F468, 0x1F3FC, 0x200D, 0x1F3A4], "man_singer_medium-light_skin_tone"),
    ([0x1F468, 0x1F3FD, 0x200D, 0x1F3A4], "man_singer_medium_skin_tone"),
    ([0x1F468, 0x200D, 0x1F393], "man_student"),
    ([0x1F468, 0x1F3FF, 0x200D, 0x1F393], "man_student_dark_skin_tone"),
    ([0x1F468, 0x1F3FB, 0x200D, 0x1F393], "man_student_light_skin_tone"),
    ([0x1F468, 0x1F3FE, 0x200D, 0x1F393], "man_student_medium-dark_skin_tone"),
    ([0x1F468, 0x1F3FC, 0x200D, 0x1F393],
      "man_student_medium-light_skin_tone"),
    ([0x1F468, 0x1F3FD, 0x200D, 0x1F393], "man_student_medium_skin_tone"),
    ([0x1F3C4, 0x200D, 0x2642, 0xFE0F], "man_surfing"),
    ([0x1F3C4, 0x1F3FF, 0x200D, 0x2642, 0xFE0F], "man_surfing_dark_skin_tone"),
    ([0x1F3C4, 0x1F3FB, 0x200D, 0x2642, 0xFE0F],
      "man_surfing_light_skin_tone"),
    ([0x1F3C4, 0x1F3FE, 0x200D, 0x2642, 0xFE0F],
      "man_surfing_medium-dark_skin_tone"),
    ([0x1F3C4, 0x1F3FC, 0x200D, 0x2642, 0xFE0F],
      "man_surfing_medium-light_skin_tone"),
    ([0x1F3C4, 0x1F3FD, 0x200D, 0x2642, 0xFE0F],
      "man_surfing_medium_skin_tone"),
    ([0x1F3CA, 0x200D, 0x2642, 0xFE0F], "man_swimming"),
    ([0x1F3CA, 0x1F3FF, 0x200D, 0x2642, 0xFE0F],
      "man_swimming_dark_skin_tone"),
    ([0x1F3CA, 0x1F3FB, 0x200D, 0x2642, 0xFE0F],
      "man_swimming_light_skin_tone"),
    ([0x1F3CA, 0x1F3FE, 0x200D, 0x2642, 0xFE0F],
      "man_swimming_medium-dark_skin_tone"),
    ([0x1F3CA, 0x1F3FC, 0x200D, 0x2642, 0xFE0F],
      "man_swimming_medium-light_skin_tone"),
    ([0x1F3CA, 0x1F3FD, 0x200D, 0x2642, 0xFE0F],
      "man_swimming_medium_skin_tone"),
    ([0x1F468, 0x200D, 0x1F3EB], "man_teacher"),
    ([0x1F468, 0x1F3FF, 0x200D, 0x1F3EB], "man_teacher_dark_skin_tone"),
    ([0x1F468, 0x1F3FB, 0x200D, 0x1F3EB], "man_teacher_light_skin_tone"),
    ([0x1F468, 0x1F3FE, 0x200D, 0x1F3EB], "man_teacher_medium-dark_skin_tone"),
    ([0x1F468, 0x1F3FC, 0x200D, 0x1F3EB],
      "man_teacher_medium-light_skin_tone"),
    ([0x1F468, 0x1F3FD, 0x200D, 0x1F3EB], "man_teacher_medium_skin_tone"),
    ([0x1F468, 0x200D, 0x1F4BB], "man_technologist"),
    ([0x1F468, 0x1F3FF, 0x200D, 0x1F4BB], "man_technologist_dark_skin_tone"),
    ([0x1F468, 0x1F3FB, 0x200D, 0x1F4BB], "man_technologist_light_skin_tone"),
    ([0x1F468, 0x1F3FE, 0x200D, 0x1F4BB],
      "man_technologist_medium-dark_skin_tone"),
    ([0x1F468, 0x1F3FC, 0x200D, 0x1F4BB],
      "man_technologist_medium-light_skin_tone"),
    ([0x1F468, 0x1F3FD, 0x200D, 0x1F4BB], "man_technologist_medium_skin_tone"),
    ([0x1F481, 0x200D, 0x2642, 0xFE0F], "man_tipping_hand"),
    ([0x1F481, 0x1F3FF, 0x200D, 0x2642, 0xFE0F],
      "man_tipping_hand_dark_skin_tone"),
    ([0x1F481, 0x1F3FB, 0x200D, 0x2642, 0xFE0F],
      "man_tipping_hand_light_skin_tone"),
    ([0x1F481, 0x1F3FE, 0x200D, 0x2642, 0xFE0F],
      "man_tipping_hand_medium-dark_skin_tone"),
    ([0x1F481, 0x1F3FC, 0x200D, 0x2642, 0xFE0F],
      "man_tipping_hand_medium-light_skin_tone"),
    ([0x1F481, 0x1F3FD, 0x200D, 0x2642, 0xFE0F],
      "man_tipping_hand_medium_skin_tone"),
    ([0x1F9DB, 0x200D, 0x2642, 0xFE0F], "man_vampire"),
    ([0x1F9DB, 0x1F3FF, 0x200D, 0x2642, 0xFE0F], "man_vampire_dark_skin_tone"),
    ([0x1F9DB, 0x1F3FB, 0x200D, 0x2642, 0xFE0F],
      "man_vampire_light_skin_tone"),
    ([0x1F9DB, 0x1F3FE, 0x200D, 0x2642, 0xFE0F],
      "man_vampire_medium-dark_skin_tone"),
    ([0x1F9DB, 0x1F3FC, 0x200D, 0x2642, 0xFE0F],
      "man_vampire_medium-light_skin_tone"),
    ([0x1F9DB, 0x1F3FD, 0x200D, 0x2642, 0xFE0F],
      "man_vampire_medium_skin_tone"),
    ([0x1F6B6, 0x200D, 0x2642, 0xFE0F], "man_walking"),
    ([0x1F6B6, 0x1F3FF, 0x200D, 0x2642, 0xFE0F], "man_walking_dark_skin_tone"),
    ([0x1F6B6, 0x1F3FB, 0x200D, 0x2642, 0xFE0F],
      "man_walking_light_skin_tone"),
    ([0x1F6B6, 0x1F3FE, 0x200D, 0x2642, 0xFE0F],
      "man_walking_medium-dark_skin_tone"),
    ([0x1F6B6, 0x1F3FC, 0x200D, 0x2642, 0xFE0F],
      "man_walking_medium-light_skin_tone"),
    ([0x1F6B6, 0x1F3FD, 0x200D, 0x2642, 0xFE0F],
      "man_walking_medium_skin_tone"),
    ([0x1F473, 0x200D, 0x2642, 0xFE0F], "man_wearing_turban"),
    ([0x1F473, 0x1F3FF, 0x200D, 0x2642, 0xFE0F],
      "man_wearing_turban_dark_skin_tone"),
    ([0x1F473, 0x1F3FB, 0x200D, 0x2642, 0xFE0F],
      "man_wearing_turban_light_skin_tone"),
    ([0x1F473, 0x1F3FE, 0x200D, 0x2642, 0xFE0F],
      "man_wearing_turban_medium-dark_skin_tone"),
    ([0x1F473, 0x1F3FC, 0x200D, 0x2642, 0xFE0F],
      "man_wearing_turban_medium-light_skin_tone"),
    ([0x1F473, 0x1F3FD, 0x200D, 0x2642, 0xFE0F],
      "man_wearing_turban_medium_skin_tone"),
    ([0x1F468, 0x200D, 0x1F9AF], "man_with_probing_cane"),
    ([0x1F472], "man_with_chinese_cap man_with_gua_pi_mao"),
    ([0x1F472, 0x1F3FF], "man_with_chinese_cap_dark_skin_tone"),
    ([0x1F472, 0x1F3FB], "man_with_chinese_cap_light_skin_tone"),
    ([0x1F472, 0x1F3FE], "man_with_chinese_cap_medium-dark_skin_tone"),
    ([0x1F472, 0x1F3FC], "man_with_chinese_cap_medium-light_skin_tone"),
    ([0x1F472, 0x1F3FD], "man_with_chinese_cap_medium_skin_tone"),
    ([0x1F9DF, 0x200D, 0x2642, 0xFE0F], "man_zombie"), ([0x1F96D], "mango"),
    ([0x1F570], "mantelpiece_clock"), ([0x1F9BD], "manual_wheelchair"),
    ([0x1F45E], "man’s_shoe mans_shoe shoe"), ([0x1F341], "maple_leaf"),
    ([0x1F94B], "martial_arts_uniform"), ([0x1F9C9], "mate"),
    ([0x1F356], "meat_on_bone"), ([0x1F9BE], "mechanical_arm"),
    ([0x1F9BF], "mechanical_leg"), ([0x2695], "medical_symbol"),
    ([0x1F4E3], "megaphone mega"), ([0x1F348], "melon"),
    ([0x1F4DD], "memo pencil"),
    ([0x1F46F, 0x200D, 0x2642, 0xFE0F], "men_with_bunny_ears"),
    ([0x1F93C, 0x200D, 0x2642, 0xFE0F], "men_wrestling"),
    ([0x1F54E], "menorah menorah_with_nine_branches"),
    ([0x1F6B9], "men’s_room mens"),
    ([0x1F9DC, 0x200D, 0x2640, 0xFE0F], "mermaid"),
    ([0x1F9DC, 0x1F3FF, 0x200D, 0x2640, 0xFE0F], "mermaid_dark_skin_tone"),
    ([0x1F9DC, 0x1F3FB, 0x200D, 0x2640, 0xFE0F], "mermaid_light_skin_tone"),
    ([0x1F9DC, 0x1F3FE, 0x200D, 0x2640, 0xFE0F],
      "mermaid_medium-dark_skin_tone"),
    ([0x1F9DC, 0x1F3FC, 0x200D, 0x2640, 0xFE0F],
      "mermaid_medium-light_skin_tone"),
    ([0x1F9DC, 0x1F3FD, 0x200D, 0x2640, 0xFE0F], "mermaid_medium_skin_tone"),
    ([0x1F9DC, 0x200D, 0x2642, 0xFE0F], "merman"),
    ([0x1F9DC, 0x1F3FF, 0x200D, 0x2642, 0xFE0F], "merman_dark_skin_tone"),
    ([0x1F9DC, 0x1F3FB, 0x200D, 0x2642, 0xFE0F], "merman_light_skin_tone"),
    ([0x1F9DC, 0x1F3FE, 0x200D, 0x2642, 0xFE0F],
      "merman_medium-dark_skin_tone"),
    ([0x1F9DC, 0x1F3FC, 0x200D, 0x2642, 0xFE0F],
      "merman_medium-light_skin_tone"),
    ([0x1F9DC, 0x1F3FD, 0x200D, 0x2642, 0xFE0F], "merman_medium_skin_tone"),
    ([0x1F9DC], "merperson"), ([0x1F9DC, 0x1F3FF], "merperson_dark_skin_tone"),
    ([0x1F9DC, 0x1F3FB], "merperson_light_skin_tone"),
    ([0x1F9DC, 0x1F3FE], "merperson_medium-dark_skin_tone"),
    ([0x1F9DC, 0x1F3FC], "merperson_medium-light_skin_tone"),
    ([0x1F9DC, 0x1F3FD], "merperson_medium_skin_tone"), ([0x1F687], "metro"),
    ([0x1F9A0], "microbe"), ([0x1F3A4], "microphone"),
    ([0x1F52C], "microscope"),
    ([0x1F595], "middle_finger reversed_hand_with_middle_finger_extended"),
    ([0x1F595, 0x1F3FF], "middle_finger_dark_skin_tone"),
    ([0x1F595, 0x1F3FB], "middle_finger_light_skin_tone"),
    ([0x1F595, 0x1F3FE], "middle_finger_medium-dark_skin_tone"),
    ([0x1F595, 0x1F3FC], "middle_finger_medium-light_skin_tone"),
    ([0x1F595, 0x1F3FD], "middle_finger_medium_skin_tone"),
    ([0x1F396], "military_medal"), ([0x1F30C], "milky_way"),
    ([0x1F690], "minibus"), ([0x1F5FF], "moai moyai"),
    ([0x1F4F1], "mobile_phone iphone"), ([0x1F4F4], "mobile_phone_off"),
    ([0x1F4F2], "mobile_phone_with_arrow calling"),
    ([0x1F911], "money-mouth_face money__mouth_face"),
    ([0x1F4B0], "money_bag moneybag"), ([0x1F4B8], "money_with_wings"),
    ([0x1F412], "monkey"), ([0x1F435], "monkey_face"), ([0x1F69D], "monorail"),
    ([0x1F96E], "moon_cake"), ([0x1F391], "moon_viewing_ceremony rice_scene"),
    ([0x1F54C], "mosque"), ([0x1F99F], "mosquito"), ([0x1F6E5], "motor_boat"),
    ([0x1F6F5], "motor_scooter"), ([0x1F3CD], "motorcycle racing_motorcycle"),
    ([0x1F9BC], "motorized_wheelchair"), ([0x1F6E3], "motorway"),
    ([0x1F5FB], "mount_fuji"), ([0x26F0], "mountain"),
    ([0x1F6A0], "mountain_cableway"), ([0x1F69E], "mountain_railway"),
    ([0x1F42D], "mouse mouse_face"), ([0x1F444], "mouth lips"),
    ([0x1F3A5], "movie_camera"), ([0x1F344], "mushroom"),
    ([0x1F3B9], "musical_keyboard"), ([0x1F3B5], "musical_note"),
    ([0x1F3B6], "musical_notes notes"), ([0x1F3BC], "musical_score"),
    ([0x1F507], "muted_speaker mute"), ([0x1F485], "nail_polish nail_care"),
    ([0x1F485, 0x1F3FF], "nail_polish_dark_skin_tone"),
    ([0x1F485, 0x1F3FB], "nail_polish_light_skin_tone"),
    ([0x1F485, 0x1F3FE], "nail_polish_medium-dark_skin_tone"),
    ([0x1F485, 0x1F3FC], "nail_polish_medium-light_skin_tone"),
    ([0x1F485, 0x1F3FD], "nail_polish_medium_skin_tone"),
    ([0x1F4DB], "name_badge"), ([0x1F3DE], "national_park"),
    ([0x1F922], "nauseated_face"), ([0x1F9FF], "nazar_amulet"),
    ([0x1F454], "necktie"), ([0x1F913], "nerd_face"),
    ([0x1F610], "neutral_face"), ([0x1F311], "new_moon"),
    ([0x1F31A], "new_moon_face new_moon_with_face"), ([0x1F4F0], "newspaper"),
    ([0x23ED], "next_track_button"),
    ([0x23ED], "black_right__pointing_double_triangle_with_vertical_bar"),
    ([0x1F303], "night_with_stars"), ([0x1F564], "nine-thirty clock930"),
    ([0x1F558], "nine_o’clock clock9"), ([0x1F6B3], "no_bicycles"),
    ([0x26D4], "no_entry"), ([0x1F6AF], "no_littering do_not_litter"),
    ([0x1F4F5], "no_mobile_phones"),
    ([0x1F51E], "no_one_under_eighteen underage"),
    ([0x1F6B7], "no_pedestrians"), ([0x1F6AD], "no_smoking"),
    ([0x1F6B1], "non-potable_water non__potable_water"), ([0x1F443], "nose"),
    ([0x1F443, 0x1F3FF], "nose_dark_skin_tone"),
    ([0x1F443, 0x1F3FB], "nose_light_skin_tone"),
    ([0x1F443, 0x1F3FE], "nose_medium-dark_skin_tone"),
    ([0x1F443, 0x1F3FC], "nose_medium-light_skin_tone"),
    ([0x1F443, 0x1F3FD], "nose_medium_skin_tone"), ([0x1F4D3], "notebook"),
    ([0x1F4D4], "notebook_with_decorative_cover"), ([0x1F529], "nut_and_bolt"),
    ([0x1F419], "octopus"), ([0x1F362], "oden"),
    ([0x1F3E2], "office_building office"), ([0x1F479], "ogre japanese_ogre"),
    ([0x1F6E2], "oil_drum"), ([0x1F5DD], "old_key"),
    ([0x1F474], "old_man older_man"),
    ([0x1F474, 0x1F3FF], "old_man_dark_skin_tone"),
    ([0x1F474, 0x1F3FB], "old_man_light_skin_tone"),
    ([0x1F474, 0x1F3FE], "old_man_medium-dark_skin_tone"),
    ([0x1F474, 0x1F3FC], "old_man_medium-light_skin_tone"),
    ([0x1F474, 0x1F3FD], "old_man_medium_skin_tone"),
    ([0x1F475], "old_woman older_woman"),
    ([0x1F475, 0x1F3FF], "old_woman_dark_skin_tone"),
    ([0x1F475, 0x1F3FB], "old_woman_light_skin_tone"),
    ([0x1F475, 0x1F3FE], "old_woman_medium-dark_skin_tone"),
    ([0x1F475, 0x1F3FC], "old_woman_medium-light_skin_tone"),
    ([0x1F475, 0x1F3FD], "old_woman_medium_skin_tone"),
    ([0x1F9D3], "older_adult"),
    ([0x1F9D3, 0x1F3FF], "older_adult_dark_skin_tone"),
    ([0x1F9D3, 0x1F3FB], "older_adult_light_skin_tone"),
    ([0x1F9D3, 0x1F3FE], "older_adult_medium-dark_skin_tone"),
    ([0x1F9D3, 0x1F3FC], "older_adult_medium-light_skin_tone"),
    ([0x1F9D3, 0x1F3FD], "older_adult_medium_skin_tone"),
    ([0x1F549], "om om_symbol"), ([0x1F698], "oncoming_automobile"),
    ([0x1F68D], "oncoming_bus"), ([0x1F44A], "oncoming_fist facepunch punch"),
    ([0x1F44A, 0x1F3FF], "oncoming_fist_dark_skin_tone"),
    ([0x1F44A, 0x1F3FB], "oncoming_fist_light_skin_tone"),
    ([0x1F44A, 0x1F3FE], "oncoming_fist_medium-dark_skin_tone"),
    ([0x1F44A, 0x1F3FC], "oncoming_fist_medium-light_skin_tone"),
    ([0x1F44A, 0x1F3FD], "oncoming_fist_medium_skin_tone"),
    ([0x1F694], "oncoming_police_car"), ([0x1F696], "oncoming_taxi"),
    ([0x1FA71], "one-piece_swimsuit"), ([0x1F55C], "one-thirty clock130"),
    ([0x1F550], "one_o’clock clock1"), ([0x1F9C5], "onion"),
    ([0x1F4D6], "open_book book"), ([0x1F4C2], "open_file_folder"),
    ([0x1F450], "open_hands"),
    ([0x1F450, 0x1F3FF], "open_hands_dark_skin_tone"),
    ([0x1F450, 0x1F3FB], "open_hands_light_skin_tone"),
    ([0x1F450, 0x1F3FE], "open_hands_medium-dark_skin_tone"),
    ([0x1F450, 0x1F3FC], "open_hands_medium-light_skin_tone"),
    ([0x1F450, 0x1F3FD], "open_hands_medium_skin_tone"),
    ([0x1F4ED], "open_mailbox_with_lowered_flag mailbox_with_no_mail"),
    ([0x1F4EC], "open_mailbox_with_raised_flag mailbox_with_mail"),
    ([0x1F4BF], "optical_disk cd"), ([0x1F4D9], "orange_book"),
    ([0x1F7E0], "orange_circle"), ([0x1F9E1], "orange_heart"),
    ([0x1F7E7], "orange_square"), ([0x1F9A7], "orangutan"),
    ([0x2626], "orthodox_cross"), ([0x1F9A6], "otter"),
    ([0x1F4E4], "outbox_tray"), ([0x1F989], "owl"), ([0x1F402], "ox"),
    ([0x1F9AA], "oyster"), ([0x1F4E6], "package"),
    ([0x1F4C4], "page_facing_up"), ([0x1F4C3], "page_with_curl"),
    ([0x1F4DF], "pager"), ([0x1F58C], "paintbrush lower_left_paintbrush"),
    ([0x1F334], "palm_tree"), ([0x1F932], "palms_up_together"),
    ([0x1F932, 0x1F3FF], "palms_up_together_dark_skin_tone"),
    ([0x1F932, 0x1F3FB], "palms_up_together_light_skin_tone"),
    ([0x1F932, 0x1F3FE], "palms_up_together_medium-dark_skin_tone"),
    ([0x1F932, 0x1F3FC], "palms_up_together_medium-light_skin_tone"),
    ([0x1F932, 0x1F3FD], "palms_up_together_medium_skin_tone"),
    ([0x1F95E], "pancakes"), ([0x1F43C], "panda_face"),
    ([0x1F4CE], "paperclip"), ([0x1F99C], "parrot"),
    ([0x303D], "part_alternation_mark"), ([0x1F389], "party_popper tada"),
    ([0x1F973], "partying_face"), ([0x1F6F3], "passenger_ship"),
    ([0x1F6C2], "passport_control"),
    ([0x23F8], "pause_button double_vertical_bar"),
    ([0x1F43E], "paw_prints feet"), ([0x262E], "peace_symbol"),
    ([0x1F351], "peach"), ([0x1F99A], "peacock"), ([0x1F95C], "peanuts"),
    ([0x1F350], "pear"), ([0x1F58A], "pen lower_left_ballpoint_pen"),
    ([0x1F427], "penguin"), ([0x1F614], "pensive_face pensive"),
    ([0x1F9D1, 0x200D, 0x1F91D, 0x200D, 0x1F9D1], "people_holding_hands"),
    ([0x1F46F], "people_with_bunny_ears dancers"),
    ([0x1F93C], "people_wrestling"), ([0x1F3AD], "performing_arts"),
    ([0x1F623], "persevering_face persevere"),
    ([0x1F6B4], "person_biking bicyclist"),
    ([0x1F6B4, 0x1F3FF], "person_biking_dark_skin_tone"),
    ([0x1F6B4, 0x1F3FB], "person_biking_light_skin_tone"),
    ([0x1F6B4, 0x1F3FE], "person_biking_medium-dark_skin_tone"),
    ([0x1F6B4, 0x1F3FC], "person_biking_medium-light_skin_tone"),
    ([0x1F6B4, 0x1F3FD], "person_biking_medium_skin_tone"),
    ([0x26F9], "person_bouncing_ball person_with_ball"),
    ([0x26F9, 0x1F3FF], "person_bouncing_ball_dark_skin_tone"),
    ([0x26F9, 0x1F3FB], "person_bouncing_ball_light_skin_tone"),
    ([0x26F9, 0x1F3FE], "person_bouncing_ball_medium-dark_skin_tone"),
    ([0x26F9, 0x1F3FC], "person_bouncing_ball_medium-light_skin_tone"),
    ([0x26F9, 0x1F3FD], "person_bouncing_ball_medium_skin_tone"),
    ([0x1F647], "person_bowing bow"),
    ([0x1F647, 0x1F3FF], "person_bowing_dark_skin_tone"),
    ([0x1F647, 0x1F3FB], "person_bowing_light_skin_tone"),
    ([0x1F647, 0x1F3FE], "person_bowing_medium-dark_skin_tone"),
    ([0x1F647, 0x1F3FC], "person_bowing_medium-light_skin_tone"),
    ([0x1F647, 0x1F3FD], "person_bowing_medium_skin_tone"),
    ([0x1F938], "person_cartwheeling"),
    ([0x1F938, 0x1F3FF], "person_cartwheeling_dark_skin_tone"),
    ([0x1F938, 0x1F3FB], "person_cartwheeling_light_skin_tone"),
    ([0x1F938, 0x1F3FE], "person_cartwheeling_medium-dark_skin_tone"),
    ([0x1F938, 0x1F3FC], "person_cartwheeling_medium-light_skin_tone"),
    ([0x1F938, 0x1F3FD], "person_cartwheeling_medium_skin_tone"),
    ([0x1F9D7], "person_climbing"),
    ([0x1F9D7, 0x1F3FF], "person_climbing_dark_skin_tone"),
    ([0x1F9D7, 0x1F3FB], "person_climbing_light_skin_tone"),
    ([0x1F9D7, 0x1F3FE], "person_climbing_medium-dark_skin_tone"),
    ([0x1F9D7, 0x1F3FC], "person_climbing_medium-light_skin_tone"),
    ([0x1F9D7, 0x1F3FD], "person_climbing_medium_skin_tone"),
    ([0x1F926], "person_facepalming"),
    ([0x1F926, 0x1F3FF], "person_facepalming_dark_skin_tone"),
    ([0x1F926, 0x1F3FB], "person_facepalming_light_skin_tone"),
    ([0x1F926, 0x1F3FE], "person_facepalming_medium-dark_skin_tone"),
    ([0x1F926, 0x1F3FC], "person_facepalming_medium-light_skin_tone"),
    ([0x1F926, 0x1F3FD], "person_facepalming_medium_skin_tone"),
    ([0x1F93A], "person_fencing"), ([0x1F64D], "person_frowning"),
    ([0x1F64D, 0x1F3FF], "person_frowning_dark_skin_tone"),
    ([0x1F64D, 0x1F3FB], "person_frowning_light_skin_tone"),
    ([0x1F64D, 0x1F3FE], "person_frowning_medium-dark_skin_tone"),
    ([0x1F64D, 0x1F3FC], "person_frowning_medium-light_skin_tone"),
    ([0x1F64D, 0x1F3FD], "person_frowning_medium_skin_tone"),
    ([0x1F645], "person_gesturing_no no_good"),
    ([0x1F645, 0x1F3FF], "person_gesturing_no_dark_skin_tone"),
    ([0x1F645, 0x1F3FB], "person_gesturing_no_light_skin_tone"),
    ([0x1F645, 0x1F3FE], "person_gesturing_no_medium-dark_skin_tone"),
    ([0x1F645, 0x1F3FC], "person_gesturing_no_medium-light_skin_tone"),
    ([0x1F645, 0x1F3FD], "person_gesturing_no_medium_skin_tone"),
    ([0x1F646], "person_gesturing_ok ok_woman"),
    ([0x1F646, 0x1F3FF], "person_gesturing_ok_dark_skin_tone"),
    ([0x1F646, 0x1F3FB], "person_gesturing_ok_light_skin_tone"),
    ([0x1F646, 0x1F3FE], "person_gesturing_ok_medium-dark_skin_tone"),
    ([0x1F646, 0x1F3FC], "person_gesturing_ok_medium-light_skin_tone"),
    ([0x1F646, 0x1F3FD], "person_gesturing_ok_medium_skin_tone"),
    ([0x1F487], "person_getting_haircut haircut"),
    ([0x1F487, 0x1F3FF], "person_getting_haircut_dark_skin_tone"),
    ([0x1F487, 0x1F3FB], "person_getting_haircut_light_skin_tone"),
    ([0x1F487, 0x1F3FE], "person_getting_haircut_medium-dark_skin_tone"),
    ([0x1F487, 0x1F3FC], "person_getting_haircut_medium-light_skin_tone"),
    ([0x1F487, 0x1F3FD], "person_getting_haircut_medium_skin_tone"),
    ([0x1F486], "person_getting_massage massage"),
    ([0x1F486, 0x1F3FF], "person_getting_massage_dark_skin_tone"),
    ([0x1F486, 0x1F3FB], "person_getting_massage_light_skin_tone"),
    ([0x1F486, 0x1F3FE], "person_getting_massage_medium-dark_skin_tone"),
    ([0x1F486, 0x1F3FC], "person_getting_massage_medium-light_skin_tone"),
    ([0x1F486, 0x1F3FD], "person_getting_massage_medium_skin_tone"),
    ([0x1F3CC], "person_golfing golfer"),
    ([0x1F3CC, 0x1F3FF], "person_golfing_dark_skin_tone"),
    ([0x1F3CC, 0x1F3FB], "person_golfing_light_skin_tone"),
    ([0x1F3CC, 0x1F3FE], "person_golfing_medium-dark_skin_tone"),
    ([0x1F3CC, 0x1F3FC], "person_golfing_medium-light_skin_tone"),
    ([0x1F3CC, 0x1F3FD], "person_golfing_medium_skin_tone"),
    ([0x1F6CC], "person_in_bed sleeping_accommodation"),
    ([0x1F6CC, 0x1F3FF], "person_in_bed_dark_skin_tone"),
    ([0x1F6CC, 0x1F3FB], "person_in_bed_light_skin_tone"),
    ([0x1F6CC, 0x1F3FE], "person_in_bed_medium-dark_skin_tone"),
    ([0x1F6CC, 0x1F3FC], "person_in_bed_medium-light_skin_tone"),
    ([0x1F6CC, 0x1F3FD], "person_in_bed_medium_skin_tone"),
    ([0x1F9D8], "person_in_lotus_position"),
    ([0x1F9D8, 0x1F3FF], "person_in_lotus_position_dark_skin_tone"),
    ([0x1F9D8, 0x1F3FB], "person_in_lotus_position_light_skin_tone"),
    ([0x1F9D8, 0x1F3FE], "person_in_lotus_position_medium-dark_skin_tone"),
    ([0x1F9D8, 0x1F3FC], "person_in_lotus_position_medium-light_skin_tone"),
    ([0x1F9D8, 0x1F3FD], "person_in_lotus_position_medium_skin_tone"),
    ([0x1F9D6], "person_in_steamy_room"),
    ([0x1F9D6, 0x1F3FF], "person_in_steamy_room_dark_skin_tone"),
    ([0x1F9D6, 0x1F3FB], "person_in_steamy_room_light_skin_tone"),
    ([0x1F9D6, 0x1F3FE], "person_in_steamy_room_medium-dark_skin_tone"),
    ([0x1F9D6, 0x1F3FC], "person_in_steamy_room_medium-light_skin_tone"),
    ([0x1F9D6, 0x1F3FD], "person_in_steamy_room_medium_skin_tone"),
    ([0x1F939], "person_juggling"),
    ([0x1F939, 0x1F3FF], "person_juggling_dark_skin_tone"),
    ([0x1F939, 0x1F3FB], "person_juggling_light_skin_tone"),
    ([0x1F939, 0x1F3FE], "person_juggling_medium-dark_skin_tone"),
    ([0x1F939, 0x1F3FC], "person_juggling_medium-light_skin_tone"),
    ([0x1F939, 0x1F3FD], "person_juggling_medium_skin_tone"),
    ([0x1F9CE], "person_kneeling"),
    ([0x1F3CB], "person_lifting_weights weight_lifter"),
    ([0x1F3CB, 0x1F3FF], "person_lifting_weights_dark_skin_tone"),
    ([0x1F3CB, 0x1F3FB], "person_lifting_weights_light_skin_tone"),
    ([0x1F3CB, 0x1F3FE], "person_lifting_weights_medium-dark_skin_tone"),
    ([0x1F3CB, 0x1F3FC], "person_lifting_weights_medium-light_skin_tone"),
    ([0x1F3CB, 0x1F3FD], "person_lifting_weights_medium_skin_tone"),
    ([0x1F6B5], "person_mountain_biking mountain_bicyclist"),
    ([0x1F6B5, 0x1F3FF], "person_mountain_biking_dark_skin_tone"),
    ([0x1F6B5, 0x1F3FB], "person_mountain_biking_light_skin_tone"),
    ([0x1F6B5, 0x1F3FE], "person_mountain_biking_medium-dark_skin_tone"),
    ([0x1F6B5, 0x1F3FC], "person_mountain_biking_medium-light_skin_tone"),
    ([0x1F6B5, 0x1F3FD], "person_mountain_biking_medium_skin_tone"),
    ([0x1F93E], "person_playing_handball"),
    ([0x1F93E, 0x1F3FF], "person_playing_handball_dark_skin_tone"),
    ([0x1F93E, 0x1F3FB], "person_playing_handball_light_skin_tone"),
    ([0x1F93E, 0x1F3FE], "person_playing_handball_medium-dark_skin_tone"),
    ([0x1F93E, 0x1F3FC], "person_playing_handball_medium-light_skin_tone"),
    ([0x1F93E, 0x1F3FD], "person_playing_handball_medium_skin_tone"),
    ([0x1F93D], "person_playing_water_polo"),
    ([0x1F93D, 0x1F3FF], "person_playing_water_polo_dark_skin_tone"),
    ([0x1F93D, 0x1F3FB], "person_playing_water_polo_light_skin_tone"),
    ([0x1F93D, 0x1F3FE], "person_playing_water_polo_medium-dark_skin_tone"),
    ([0x1F93D, 0x1F3FC], "person_playing_water_polo_medium-light_skin_tone"),
    ([0x1F93D, 0x1F3FD], "person_playing_water_polo_medium_skin_tone"),
    ([0x1F64E], "person_pouting person_with_pouting_face"),
    ([0x1F64E, 0x1F3FF], "person_pouting_dark_skin_tone"),
    ([0x1F64E, 0x1F3FB], "person_pouting_light_skin_tone"),
    ([0x1F64E, 0x1F3FE], "person_pouting_medium-dark_skin_tone"),
    ([0x1F64E, 0x1F3FC], "person_pouting_medium-light_skin_tone"),
    ([0x1F64E, 0x1F3FD], "person_pouting_medium_skin_tone"),
    ([0x1F64B], "person_raising_hand raising_hand"),
    ([0x1F64B, 0x1F3FF], "person_raising_hand_dark_skin_tone"),
    ([0x1F64B, 0x1F3FB], "person_raising_hand_light_skin_tone"),
    ([0x1F64B, 0x1F3FE], "person_raising_hand_medium-dark_skin_tone"),
    ([0x1F64B, 0x1F3FC], "person_raising_hand_medium-light_skin_tone"),
    ([0x1F64B, 0x1F3FD], "person_raising_hand_medium_skin_tone"),
    ([0x1F6A3], "person_rowing_boat rowboat"),
    ([0x1F6A3, 0x1F3FF], "person_rowing_boat_dark_skin_tone"),
    ([0x1F6A3, 0x1F3FB], "person_rowing_boat_light_skin_tone"),
    ([0x1F6A3, 0x1F3FE], "person_rowing_boat_medium-dark_skin_tone"),
    ([0x1F6A3, 0x1F3FC], "person_rowing_boat_medium-light_skin_tone"),
    ([0x1F6A3, 0x1F3FD], "person_rowing_boat_medium_skin_tone"),
    ([0x1F3C3], "person_running runner running"),
    ([0x1F3C3, 0x1F3FF], "person_running_dark_skin_tone"),
    ([0x1F3C3, 0x1F3FB], "person_running_light_skin_tone"),
    ([0x1F3C3, 0x1F3FE], "person_running_medium-dark_skin_tone"),
    ([0x1F3C3, 0x1F3FC], "person_running_medium-light_skin_tone"),
    ([0x1F3C3, 0x1F3FD], "person_running_medium_skin_tone"),
    ([0x1F937], "person_shrugging"),
    ([0x1F937, 0x1F3FF], "person_shrugging_dark_skin_tone"),
    ([0x1F937, 0x1F3FB], "person_shrugging_light_skin_tone"),
    ([0x1F937, 0x1F3FE], "person_shrugging_medium-dark_skin_tone"),
    ([0x1F937, 0x1F3FC], "person_shrugging_medium-light_skin_tone"),
    ([0x1F937, 0x1F3FD], "person_shrugging_medium_skin_tone"),
    ([0x1F9CD], "person_standing"), ([0x1F3C4], "person_surfing surfer"),
    ([0x1F3C4, 0x1F3FF], "person_surfing_dark_skin_tone"),
    ([0x1F3C4, 0x1F3FB], "person_surfing_light_skin_tone"),
    ([0x1F3C4, 0x1F3FE], "person_surfing_medium-dark_skin_tone"),
    ([0x1F3C4, 0x1F3FC], "person_surfing_medium-light_skin_tone"),
    ([0x1F3C4, 0x1F3FD], "person_surfing_medium_skin_tone"),
    ([0x1F3CA], "person_swimming swimmer"),
    ([0x1F3CA, 0x1F3FF], "person_swimming_dark_skin_tone"),
    ([0x1F3CA, 0x1F3FB], "person_swimming_light_skin_tone"),
    ([0x1F3CA, 0x1F3FE], "person_swimming_medium-dark_skin_tone"),
    ([0x1F3CA, 0x1F3FC], "person_swimming_medium-light_skin_tone"),
    ([0x1F3CA, 0x1F3FD], "person_swimming_medium_skin_tone"),
    ([0x1F6C0], "person_taking_bath bath"),
    ([0x1F6C0, 0x1F3FF], "person_taking_bath_dark_skin_tone"),
    ([0x1F6C0, 0x1F3FB], "person_taking_bath_light_skin_tone"),
    ([0x1F6C0, 0x1F3FE], "person_taking_bath_medium-dark_skin_tone"),
    ([0x1F6C0, 0x1F3FC], "person_taking_bath_medium-light_skin_tone"),
    ([0x1F6C0, 0x1F3FD], "person_taking_bath_medium_skin_tone"),
    ([0x1F481], "person_tipping_hand information_desk_person"),
    ([0x1F481, 0x1F3FF], "person_tipping_hand_dark_skin_tone"),
    ([0x1F481, 0x1F3FB], "person_tipping_hand_light_skin_tone"),
    ([0x1F481, 0x1F3FE], "person_tipping_hand_medium-dark_skin_tone"),
    ([0x1F481, 0x1F3FC], "person_tipping_hand_medium-light_skin_tone"),
    ([0x1F481, 0x1F3FD], "person_tipping_hand_medium_skin_tone"),
    ([0x1F6B6], "person_walking walking"),
    ([0x1F6B6, 0x1F3FF], "person_walking_dark_skin_tone"),
    ([0x1F6B6, 0x1F3FB], "person_walking_light_skin_tone"),
    ([0x1F6B6, 0x1F3FE], "person_walking_medium-dark_skin_tone"),
    ([0x1F6B6, 0x1F3FC], "person_walking_medium-light_skin_tone"),
    ([0x1F6B6, 0x1F3FD], "person_walking_medium_skin_tone"),
    ([0x1F473], "person_wearing_turban man_with_turban"),
    ([0x1F473, 0x1F3FF], "person_wearing_turban_dark_skin_tone"),
    ([0x1F473, 0x1F3FB], "person_wearing_turban_light_skin_tone"),
    ([0x1F473, 0x1F3FE], "person_wearing_turban_medium-dark_skin_tone"),
    ([0x1F473, 0x1F3FC], "person_wearing_turban_medium-light_skin_tone"),
    ([0x1F473, 0x1F3FD], "person_wearing_turban_medium_skin_tone"),
    ([0x1F9EB], "petri_dish"), ([0x26CF], "pick"), ([0x1F967], "pie"),
    ([0x1F437], "pig pig_face"), ([0x1F43D], "pig_nose"),
    ([0x1F4A9], "pile_of_poo hankey poop shit"), ([0x1F48A], "pill"),
    ([0x1F90F], "pinching_hand"), ([0x1F38D], "pine_decoration bamboo"),
    ([0x1F34D], "pineapple"),
    ([0x1F3D3], "ping_pong table_tennis_paddle_and_ball"),
    ([0x1F3F4, 0x200D, 0x2620, 0xFE0F], "pirate_flag"),
    ([0x1F52B], "pistol gun"), ([0x1F355], "pizza"),
    ([0x1F6D0], "place_of_worship"), ([0x25B6], "play_button arrow_forward"),
    ([0x23EF], "play_or_pause_button"),
    ([0x23EF], "black_right__pointing_triangle_with_double_vertical_bar"),
    ([0x1F97A], "pleading_face"), ([0x1F693], "police_car"),
    ([0x1F6A8], "police_car_light rotating_light"),
    ([0x1F46E], "police_officer cop"),
    ([0x1F46E, 0x1F3FF], "police_officer_dark_skin_tone"),
    ([0x1F46E, 0x1F3FB], "police_officer_light_skin_tone"),
    ([0x1F46E, 0x1F3FE], "police_officer_medium-dark_skin_tone"),
    ([0x1F46E, 0x1F3FC], "police_officer_medium-light_skin_tone"),
    ([0x1F46E, 0x1F3FD], "police_officer_medium_skin_tone"),
    ([0x1F429], "poodle"), ([0x1F3B1], "pool_8_ball 8ball"),
    ([0x1F37F], "popcorn"), ([0x1F4EF], "postal_horn"), ([0x1F4EE], "postbox"),
    ([0x1F372], "pot_of_food stew"), ([0x1F6B0], "potable_water"),
    ([0x1F954], "potato"), ([0x1F357], "poultry_leg"),
    ([0x1F4B7], "pound_banknote pound"),
    ([0x1F63E], "pouting_cat_face pouting_cat"),
    ([0x1F621], "pouting_face rage"), ([0x1F4FF], "prayer_beads"),
    ([0x1F930], "pregnant_woman"),
    ([0x1F930, 0x1F3FF], "pregnant_woman_dark_skin_tone"),
    ([0x1F930, 0x1F3FB], "pregnant_woman_light_skin_tone"),
    ([0x1F930, 0x1F3FE], "pregnant_woman_medium-dark_skin_tone"),
    ([0x1F930, 0x1F3FC], "pregnant_woman_medium-light_skin_tone"),
    ([0x1F930, 0x1F3FD], "pregnant_woman_medium_skin_tone"),
    ([0x1F968], "pretzel"), ([0x1F9AF], "probing_cane"), ([0x1F934], "prince"),
    ([0x1F934, 0x1F3FF], "prince_dark_skin_tone"),
    ([0x1F934, 0x1F3FB], "prince_light_skin_tone"),
    ([0x1F934, 0x1F3FE], "prince_medium-dark_skin_tone"),
    ([0x1F934, 0x1F3FC], "prince_medium-light_skin_tone"),
    ([0x1F934, 0x1F3FD], "prince_medium_skin_tone"), ([0x1F478], "princess"),
    ([0x1F478, 0x1F3FF], "princess_dark_skin_tone"),
    ([0x1F478, 0x1F3FB], "princess_light_skin_tone"),
    ([0x1F478, 0x1F3FE], "princess_medium-dark_skin_tone"),
    ([0x1F478, 0x1F3FC], "princess_medium-light_skin_tone"),
    ([0x1F478, 0x1F3FD], "princess_medium_skin_tone"), ([0x1F5A8], "printer"),
    ([0x1F6AB], "prohibited no_entry_sign"), ([0x1F7E3], "purple_circle"),
    ([0x1F49C], "purple_heart"), ([0x1F7EA], "purple_square"),
    ([0x1F45B], "purse"), ([0x1F4CC], "pushpin"),
    ([0x2753], "question_mark question"), ([0x1F430], "rabbit rabbit_face"),
    ([0x1F99D], "raccoon"), ([0x1F3CE], "racing_car"), ([0x1F4FB], "radio"),
    ([0x1F518], "radio_button"), ([0x2622], "radioactive radioactive_sign"),
    ([0x1F683], "railway_car"), ([0x1F6E4], "railway_track"),
    ([0x1F308], "rainbow"),
    ([0x1F3F3, 0xFE0F, 0x200D, 0x1F308], "rainbow_flag"),
    ([0x1F91A], "raised_back_of_hand"),
    ([0x1F91A, 0x1F3FF], "raised_back_of_hand_dark_skin_tone"),
    ([0x1F91A, 0x1F3FB], "raised_back_of_hand_light_skin_tone"),
    ([0x1F91A, 0x1F3FE], "raised_back_of_hand_medium-dark_skin_tone"),
    ([0x1F91A, 0x1F3FC], "raised_back_of_hand_medium-light_skin_tone"),
    ([0x1F91A, 0x1F3FD], "raised_back_of_hand_medium_skin_tone"),
    ([0x270A], "raised_fist fist"),
    ([0x270A, 0x1F3FF], "raised_fist_dark_skin_tone"),
    ([0x270A, 0x1F3FB], "raised_fist_light_skin_tone"),
    ([0x270A, 0x1F3FE], "raised_fist_medium-dark_skin_tone"),
    ([0x270A, 0x1F3FC], "raised_fist_medium-light_skin_tone"),
    ([0x270A, 0x1F3FD], "raised_fist_medium_skin_tone"),
    ([0x270B], "raised_hand hand"),
    ([0x270B, 0x1F3FF], "raised_hand_dark_skin_tone"),
    ([0x270B, 0x1F3FB], "raised_hand_light_skin_tone"),
    ([0x270B, 0x1F3FE], "raised_hand_medium-dark_skin_tone"),
    ([0x270B, 0x1F3FC], "raised_hand_medium-light_skin_tone"),
    ([0x270B, 0x1F3FD], "raised_hand_medium_skin_tone"),
    ([0x1F64C], "raising_hands raised_hands"),
    ([0x1F64C, 0x1F3FF], "raising_hands_dark_skin_tone"),
    ([0x1F64C, 0x1F3FB], "raising_hands_light_skin_tone"),
    ([0x1F64C, 0x1F3FE], "raising_hands_medium-dark_skin_tone"),
    ([0x1F64C, 0x1F3FC], "raising_hands_medium-light_skin_tone"),
    ([0x1F64C, 0x1F3FD], "raising_hands_medium_skin_tone"), ([0x1F40F], "ram"),
    ([0x1F400], "rat"), ([0x1FA92], "razor"), ([0x1FA90], "ringed_planet"),
    ([0x1F9FE], "receipt"),
    ([0x23FA], "record_button black_circle_for_record"),
    ([0x267B], "recycling_symbol recycle"), ([0x1F34E], "red_apple apple"),
    ([0x1F534], "red_circle"), ([0x1F9E7], "red_envelope"),
    ([0x1F9B0], "red_hair"), ([0x1F468, 0x200D, 0x1F9B0], "red-haired_man"),
    ([0x1F469, 0x200D, 0x1F9B0], "red-haired_woman"),
    ([0x2764], "red_heart heart"),
    ([0x1F3EE], "red_paper_lantern izakaya_lantern lantern"),
    ([0x1F7E5], "red_square"),
    ([0x1F53B], "red_triangle_pointed_down small_red_triangle_down"),
    ([0x1F53A], "red_triangle_pointed_up small_red_triangle"),
    ([0xAE], "registered"), ([0x1F60C], "relieved_face relieved"),
    ([0x1F397], "reminder_ribbon"), ([0x1F501], "repeat_button repeat"),
    ([0x1F502], "repeat_single_button repeat_one"),
    ([0x26D1], "rescue_worker’s_helmet helmet_with_white_cross"),
    ([0x1F6BB], "restroom"), ([0x25C0], "reverse_button arrow_backward"),
    ([0x1F49E], "revolving_hearts"), ([0x1F98F], "rhinoceros"),
    ([0x1F380], "ribbon"), ([0x1F359], "rice_ball"),
    ([0x1F358], "rice_cracker"), ([0x1F91C], "right-facing_fist"),
    ([0x1F91C, 0x1F3FF], "right-facing_fist_dark_skin_tone"),
    ([0x1F91C, 0x1F3FB], "right-facing_fist_light_skin_tone"),
    ([0x1F91C, 0x1F3FE], "right-facing_fist_medium-dark_skin_tone"),
    ([0x1F91C, 0x1F3FC], "right-facing_fist_medium-light_skin_tone"),
    ([0x1F91C, 0x1F3FD], "right-facing_fist_medium_skin_tone"),
    ([0x1F5EF], "right_anger_bubble"), ([0x27A1], "right_arrow arrow_right"),
    ([0x2935], "right_arrow_curving_down arrow_heading_down"),
    ([0x21A9], "right_arrow_curving_left leftwards_arrow_with_hook"),
    ([0x2934], "right_arrow_curving_up arrow_heading_up"), ([0x1F48D], "ring"),
    ([0x1F360], "roasted_sweet_potato sweet_potato"),
    ([0x1F916], "robot_face robot"), ([0x1F680], "rocket"),
    ([0x1F9FB], "roll_of_paper"),
    ([0x1F5DE], "rolled-up_newspaper rolled__up_newspaper"),
    ([0x1F3A2], "roller_coaster"),
    ([0x1F923], "rolling_on_the_floor_laughing"), ([0x1F413], "rooster"),
    ([0x1F339], "rose"), ([0x1F3F5], "rosette"), ([0x1F4CD], "round_pushpin"),
    ([0x1F3C9], "rugby_football"),
    ([0x1F3BD], "running_shirt running_shirt_with_sash"),
    ([0x1F45F], "running_shoe athletic_shoe"),
    ([0x1F625], "sad_but_relieved_face disappointed_relieved"),
    ([0x1F9F7], "safety_pin"), ([0x1F9BA], "safety_vest"), ([0x1F9C2], "salt"),
    ([0x26F5], "sailboat boat"), ([0x1F376], "sake"), ([0x1F96A], "sandwich"),
    ([0x1F97B], "sari"), ([0x1F4E1], "satellite satellite_antenna"),
    ([0x1F995], "sauropod"), ([0x1F3B7], "saxophone"), ([0x1F9E3], "scarf"),
    ([0x1F3EB], "school"), ([0x1F392], "school_backpack school_satchel"),
    ([0x2702], "scissors"), ([0x1F982], "scorpion"), ([0x1F4DC], "scroll"),
    ([0x1F4BA], "seat"), ([0x1F648], "see-no-evil_monkey see_no_evil"),
    ([0x1F331], "seedling"), ([0x1F933], "selfie"),
    ([0x1F933, 0x1F3FF], "selfie_dark_skin_tone"),
    ([0x1F933, 0x1F3FB], "selfie_light_skin_tone"),
    ([0x1F933, 0x1F3FE], "selfie_medium-dark_skin_tone"),
    ([0x1F933, 0x1F3FC], "selfie_medium-light_skin_tone"),
    ([0x1F933, 0x1F3FD], "selfie_medium_skin_tone"),
    ([0x1F415, 0x200D, 0x1F9BA], "service_dog"),
    ([0x1F562], "seven-thirty clock730"), ([0x1F556], "seven_o’clock clock7"),
    ([0x1F958], "shallow_pan_of_food"), ([0x2618], "shamrock"),
    ([0x1F988], "shark"), ([0x1F367], "shaved_ice"),
    ([0x1F33E], "sheaf_of_rice ear_of_rice"), ([0x1F6E1], "shield"),
    ([0x26E9], "shinto_shrine"), ([0x1F6A2], "ship"),
    ([0x1F320], "shooting_star stars"), ([0x1F6CD], "shopping_bags"),
    ([0x1F6D2], "shopping_cart") ]

/-- Rows of names, part 4 of 4. -/
def rowsD : List (List Nat × String) :=
  [ ([0x1F370], "shortcake cake"), ([0x1FA73], "shorts"),
    ([0x1F6BF], "shower"), ([0x1F990], "shrimp"),
    ([0x1F500], "shuffle_tracks_button twisted_rightwards_arrows"),
    ([0x1F92B], "shushing_face"), ([0x1F918], "sign_of_the_horns"),
    ([0x1F918, 0x1F3FF], "sign_of_the_horns_dark_skin_tone"),
    ([0x1F918, 0x1F3FB], "sign_of_the_horns_light_skin_tone"),
    ([0x1F918, 0x1F3FE], "sign_of_the_horns_medium-dark_skin_tone"),
    ([0x1F918, 0x1F3FC], "sign_of_the_horns_medium-light_skin_tone"),
    ([0x1F918, 0x1F3FD], "sign_of_the_horns_medium_skin_tone"),
    ([0x1F561], "six-thirty clock630"), ([0x1F555], "six_o’clock clock6"),
    ([0x1F6F9], "skateboard"), ([0x26F7], "skier"), ([0x1F3BF], "skis ski"),
    ([0x1F480], "skull"), ([0x2620], "skull_and_crossbones"),
    ([0x1F9A8], "skunk"), ([0x1F6F7], "sled"),
    ([0x1F634], "sleeping_face sleeping"), ([0x1F62A], "sleepy_face sleepy"),
    ([0x1F641], "slightly_frowning_face"),
    ([0x1F642], "slightly_smiling_face"), ([0x1F3B0], "slot_machine"),
    ([0x1F9A5], "sloth"), ([0x1F6E9], "small_airplane"),
    ([0x1F539], "small_blue_diamond"), ([0x1F538], "small_orange_diamond"),
    ([0x1F63B], "smiling_cat_face_with_heart-eyes heart_eyes_cat"),
    ([0x263A], "smiling_face relaxed"),
    ([0x1F607], "smiling_face_with_halo innocent"),
    ([0x1F970], "smiling_face_with_3_hearts"),
    ([0x1F60D], "smiling_face_with_heart-eyes heart_eyes"),
    ([0x1F608], "smiling_face_with_horns smiling_imp"),
    ([0x1F60A], "smiling_face_with_smiling_eyes blush"),
    ([0x1F60E], "smiling_face_with_sunglasses sunglasses"),
    ([0x1F60F], "smirking_face smirk"), ([0x1F40C], "snail"),
    ([0x1F40D], "snake"), ([0x1F927], "sneezing_face"),
    ([0x1F3D4], "snow-capped_mountain snow_capped_mountain"),
    ([0x1F3C2], "snowboarder"),
    ([0x1F3C2, 0x1F3FF], "snowboarder_dark_skin_tone"),
    ([0x1F3C2, 0x1F3FB], "snowboarder_light_skin_tone"),
    ([0x1F3C2, 0x1F3FE], "snowboarder_medium-dark_skin_tone"),
    ([0x1F3C2, 0x1F3FC], "snowboarder_medium-light_skin_tone"),
    ([0x1F3C2, 0x1F3FD], "snowboarder_medium_skin_tone"),
    ([0x2744], "snowflake"), ([0x2603], "snowman"),
    ([0x26C4], "snowman_without_snow"), ([0x1F9FC], "soap"),
    ([0x26BD], "soccer_ball soccer"), ([0x1F9E6], "socks"),
    ([0x1F94E], "softball"), ([0x1F366], "soft_ice_cream icecream"),
    ([0x2660], "spade_suit spades"), ([0x1F35D], "spaghetti"),
    ([0x2747], "sparkle"), ([0x1F387], "sparkler"), ([0x2728], "sparkles"),
    ([0x1F496], "sparkling_heart"),
    ([0x1F64A], "speak-no-evil_monkey speak_no_evil"),
    ([0x1F50A], "speaker_high_volume loud_sound"),
    ([0x1F508], "speaker_low_volume speaker"),
    ([0x1F509], "speaker_medium_volume sound"),
    ([0x1F5E3], "speaking_head speaking_head_in_silhouette"),
    ([0x1F4AC], "speech_balloon"), ([0x1F6A4], "speedboat"),
    ([0x1F577], "spider"), ([0x1F578], "spider_web"),
    ([0x1F5D3], "spiral_calendar spiral_calendar_pad"),
    ([0x1F5D2], "spiral_notepad spiral_note_pad"),
    ([0x1F41A], "spiral_shell shell"), ([0x1F944], "spoon"),
    ([0x1F9FD], "sponge"), ([0x1F699], "sport_utility_vehicle blue_car"),
    ([0x1F3C5], "sports_medal"), ([0x1F433], "spouting_whale whale"),
    ([0x1F991], "squid"),
    ([0x1F61D], "squinting_face_with_tongue stuck_out_tongue_closed_eyes"),
    ([0x1F3DF], "stadium"), ([0x1F929], "star-struck"),
    ([0x262A], "star_and_crescent"), ([0x2721], "star_of_david"),
    ([0x1F689], "station"), ([0x1F35C], "steaming_bowl ramen"),
    ([0x1FA7A], "stethoscope"),
    ([0x23F9], "stop_button black_square_for_stop"), ([0x1F6D1], "stop_sign"),
    ([0x23F1], "stopwatch"), ([0x1F4CF], "straight_ruler"),
    ([0x1F353], "strawberry"), ([0x1F399], "studio_microphone"),
    ([0x1F959], "stuffed_flatbread"), ([0x2600], "sun sunny"),
    ([0x26C5], "sun_behind_cloud partly_sunny"),
    ([0x1F325], "sun_behind_large_cloud white_sun_behind_cloud"),
    ([0x1F326], "sun_behind_rain_cloud white_sun_behind_cloud_with_rain"),
    ([0x1F324], "sun_behind_small_cloud white_sun_with_small_cloud"),
    ([0x1F31E], "sun_with_face"), ([0x1F33B], "sunflower"),
    ([0x1F305], "sunrise"), ([0x1F304], "sunrise_over_mountains"),
    ([0x1F307], "sunset city_sunrise"), ([0x1F9B8], "superhero"),
    ([0x1F9B9], "supervillain"), ([0x1F363], "sushi"),
    ([0x1F69F], "suspension_railway"), ([0x1F9A2], "swan"),
    ([0x1F4A6], "sweat_droplets sweat_drops"), ([0x1F54D], "synagogue"),
    ([0x1F489], "syringe"), ([0x1F455], "t-shirt shirt tshirt"),
    ([0x1F32E], "taco"), ([0x1F961], "takeout_box"),
    ([0x1F38B], "tanabata_tree"), ([0x1F34A], "tangerine"),
    ([0x1F695], "taxi"), ([0x1F375], "teacup_without_handle tea"),
    ([0x1F9F8], "teddy_bear"), ([0x260E], "telephone phone"),
    ([0x1F4DE], "telephone_receiver"), ([0x1F52D], "telescope"),
    ([0x1F4FA], "television tv"), ([0x1F565], "ten-thirty clock1030"),
    ([0x1F559], "ten_o’clock clock10"), ([0x1F3BE], "tennis"),
    ([0x26FA], "tent"), ([0x1F9EA], "test_tube"), ([0x1F321], "thermometer"),
    ([0x1F914], "thinking_face"), ([0x1F4AD], "thought_balloon"),
    ([0x1F9F5], "thread"), ([0x1F55E], "three-thirty clock330"),
    ([0x1F552], "three_o’clock clock3"),
    ([0x1F44E], "thumbs_down __1 -1 thumbsdown"),
    ([0x1F44E, 0x1F3FF], "thumbs_down_dark_skin_tone"),
    ([0x1F44E, 0x1F3FB], "thumbs_down_light_skin_tone"),
    ([0x1F44E, 0x1F3FE], "thumbs_down_medium-dark_skin_tone"),
    ([0x1F44E, 0x1F3FC], "thumbs_down_medium-light_skin_tone"),
    ([0x1F44E, 0x1F3FD], "thumbs_down_medium_skin_tone"),
    ([0x1F44D], "thumbs_up +1 thumbsup"),
    ([0x1F44D, 0x1F3FF], "thumbs_up_dark_skin_tone"),
    ([0x1F44D, 0x1F3FB], "thumbs_up_light_skin_tone"),
    ([0x1F44D, 0x1F3FE], "thumbs_up_medium-dark_skin_tone"),
    ([0x1F44D, 0x1F3FC], "thumbs_up_medium-light_skin_tone"),
    ([0x1F44D, 0x1F3FD], "thumbs_up_medium_skin_tone"), ([0x1F3AB], "ticket"),
    ([0x1F42F], "tiger tiger_face"), ([0x23F2], "timer_clock"),
    ([0x1F62B], "tired_face"), ([0x1F9F0], "toolbox"), ([0x1F6BD], "toilet"),
    ([0x1F345], "tomato"), ([0x1F445], "tongue"), ([0x1F9B7], "tooth"),
    ([0x1F3A9], "top_hat tophat"), ([0x1F32A], "tornado cloud_with_tornado"),
    ([0x1F5B2], "trackball"), ([0x1F69C], "tractor"),
    ([0x2122], "trade_mark tm"), ([0x1F68B], "train tram_car"),
    ([0x1F68A], "tram"),
    ([0x1F6A9], "triangular_flag triangular_flag_on_post"),
    ([0x1F4D0], "triangular_ruler"), ([0x1F531], "trident_emblem trident"),
    ([0x1F68E], "trolleybus"), ([0x1F3C6], "trophy"),
    ([0x1F379], "tropical_drink"), ([0x1F420], "tropical_fish"),
    ([0x1F3BA], "trumpet"), ([0x1F337], "tulip"), ([0x1F943], "tumbler_glass"),
    ([0x1F422], "turtle"), ([0x1F567], "twelve-thirty clock1230"),
    ([0x1F55B], "twelve_o’clock clock12"), ([0x1F55D], "two-thirty clock230"),
    ([0x1F495], "two_hearts"), ([0x1F46C], "two_men_holding_hands"),
    ([0x1F551], "two_o’clock clock2"), ([0x1F46D], "two_women_holding_hands"),
    ([0x2602], "umbrella"), ([0x26F1], "umbrella_on_ground"),
    ([0x2614], "umbrella_with_rain_drops"),
    ([0x1F612], "unamused_face unamused"), ([0x1F984], "unicorn_face"),
    ([0x1F513], "unlocked unlock"), ([0x2195], "up-down_arrow arrow_up_down"),
    ([0x2196], "up-left_arrow arrow_upper_left"),
    ([0x2197], "up-right_arrow arrow_upper_right"),
    ([0x2B06], "up_arrow arrow_up"),
    ([0x1F643], "upside-down_face upside__down_face"),
    ([0x1F53C], "upwards_button arrow_up_small"), ([0x1F9DB], "vampire"),
    ([0x1F9DB, 0x1F3FF], "vampire_dark_skin_tone"),
    ([0x1F9DB, 0x1F3FB], "vampire_light_skin_tone"),
    ([0x1F9DB, 0x1F3FE], "vampire_medium-dark_skin_tone"),
    ([0x1F9DB, 0x1F3FC], "vampire_medium-light_skin_tone"),
    ([0x1F9DB, 0x1F3FD], "vampire_medium_skin_tone"),
    ([0x1F6A6], "vertical_traffic_light"), ([0x1F4F3], "vibration_mode"),
    ([0x270C], "victory_hand v"),
    ([0x270C, 0x1F3FF], "victory_hand_dark_skin_tone"),
    ([0x270C, 0x1F3FB], "victory_hand_light_skin_tone"),
    ([0x270C, 0x1F3FE], "victory_hand_medium-dark_skin_tone"),
    ([0x270C, 0x1F3FC], "victory_hand_medium-light_skin_tone"),
    ([0x270C, 0x1F3FD], "victory_hand_medium_skin_tone"),
    ([0x1F4F9], "video_camera"), ([0x1F3AE], "video_game"),
    ([0x1F4FC], "videocassette vhs"), ([0x1F3BB], "violin"),
    ([0x1F30B], "volcano"), ([0x1F3D0], "volleyball"),
    ([0x1F596], "vulcan_salute"),
    ([0x1F596], "raised_hand_with_part_between_middle_and_ring_fingers"),
    ([0x1F596, 0x1F3FF], "vulcan_salute_dark_skin_tone"),
    ([0x1F596, 0x1F3FB], "vulcan_salute_light_skin_tone"),
    ([0x1F596, 0x1F3FE], "vulcan_salute_medium-dark_skin_tone"),
    ([0x1F596, 0x1F3FC], "vulcan_salute_medium-light_skin_tone"),
    ([0x1F596, 0x1F3FD], "vulcan_salute_medium_skin_tone"),
    ([0x1F9C7], "waffle"), ([0x1F318], "waning_crescent_moon"),
    ([0x1F316], "waning_gibbous_moon"), ([0x26A0], "warning"),
    ([0x1F5D1], "wastebasket"), ([0x231A], "watch"),
    ([0x1F403], "water_buffalo"), ([0x1F6BE], "water_closet wc"),
    ([0x1F30A], "water_wave ocean"), ([0x1F349], "watermelon"),
    ([0x1F44B], "waving_hand wave"),
    ([0x1F44B, 0x1F3FF], "waving_hand_dark_skin_tone"),
    ([0x1F44B, 0x1F3FB], "waving_hand_light_skin_tone"),
    ([0x1F44B, 0x1F3FE], "waving_hand_medium-dark_skin_tone"),
    ([0x1F44B, 0x1F3FC], "waving_hand_medium-light_skin_tone"),
    ([0x1F44B, 0x1F3FD], "waving_hand_medium_skin_tone"),
    ([0x3030], "wavy_dash"), ([0x1F312], "waxing_crescent_moon"),
    ([0x1F314], "waxing_gibbous_moon moon"),
    ([0x1F640], "weary_cat_face scream_cat"), ([0x1F629], "weary_face weary"),
    ([0x1F492], "wedding"), ([0x2638], "wheel_of_dharma"),
    ([0x267F], "wheelchair_symbol wheelchair"), ([0x26AA], "white_circle"),
    ([0x2755], "white_exclamation_mark grey_exclamation"),
    ([0x1F3F3], "white_flag waving_white_flag"), ([0x1F4AE], "white_flower"),
    ([0x1F9B3], "white_hair"),
    ([0x1F468, 0x200D, 0x1F9B3], "white-haired_man"),
    ([0x1F469, 0x200D, 0x1F9B3], "white-haired_woman"),
    ([0x1F90D], "white_heart"),
    ([0x2705], "white_heavy_check_mark white_check_mark"),
    ([0x2B1C], "white_large_square"),
    ([0x25FD], "white_medium-small_square white_medium_small_square"),
    ([0x25FB], "white_medium_square"), ([0x2B50], "white_medium_star star"),
    ([0x2754], "white_question_mark grey_question"),
    ([0x25AB], "white_small_square"), ([0x1F533], "white_square_button"),
    ([0x1F940], "wilted_flower"), ([0x1F390], "wind_chime"),
    ([0x1F32C], "wind_face wind_blowing_face"), ([0x1F377], "wine_glass"),
    ([0x1F609], "winking_face wink"),
    ([0x1F61C], "winking_face_with_tongue stuck_out_tongue_winking_eye"),
    ([0x1F43A], "wolf_face wolf"), ([0x1F469], "woman"),
    ([0x1F469, 0x200D, 0x1F3A8], "woman_artist"),
    ([0x1F469, 0x1F3FF, 0x200D, 0x1F3A8], "woman_artist_dark_skin_tone"),
    ([0x1F469, 0x1F3FB, 0x200D, 0x1F3A8], "woman_artist_light_skin_tone"),
    ([0x1F469, 0x1F3FE, 0x200D, 0x1F3A8],
      "woman_artist_medium-dark_skin_tone"),
    ([0x1F469, 0x1F3FC, 0x200D, 0x1F3A8],
      "woman_artist_medium-light_skin_tone"),
    ([0x1F469, 0x1F3FD, 0x200D, 0x1F3A8], "woman_artist_medium_skin_tone"),
    ([0x1F469, 0x200D, 0x1F680], "woman_astronaut"),
    ([0x1F469, 0x1F3FF, 0x200D, 0x1F680], "woman_astronaut_dark_skin_tone"),
    ([0x1F469, 0x1F3FB, 0x200D, 0x1F680], "woman_astronaut_light_skin_tone"),
    ([0x1F469, 0x1F3FE, 0x200D, 0x1F680],
      "woman_astronaut_medium-dark_skin_tone"),
    ([0x1F469, 0x1F3FC, 0x200D, 0x1F680],
      "woman_astronaut_medium-light_skin_tone"),
    ([0x1F469, 0x1F3FD, 0x200D, 0x1F680], "woman_astronaut_medium_skin_tone"),
    ([0x1F6B4, 0x200D, 0x2640, 0xFE0F], "woman_biking"),
    ([0x1F6B4, 0x1F3FF, 0x200D, 0x2640, 0xFE0F],
      "woman_biking_dark_skin_tone"),
    ([0x1F6B4, 0x1F3FB, 0x200D, 0x2640, 0xFE0F],
      "woman_biking_light_skin_tone"),
    ([0x1F6B4, 0x1F3FE, 0x200D, 0x2640, 0xFE0F],
      "woman_biking_medium-dark_skin_tone"),
    ([0x1F6B4, 0x1F3FC, 0x200D, 0x2640, 0xFE0F],
      "woman_biking_medium-light_skin_tone"),
    ([0x1F6B4, 0x1F3FD, 0x200D, 0x2640, 0xFE0F],
      "woman_biking_medium_skin_tone"),
    ([0x26F9, 0xFE0F, 0x200D, 0x2640, 0xFE0F], "woman_bouncing_ball"),
    ([0x26F9, 0x1F3FF, 0x200D, 0x2640, 0xFE0F],
      "woman_bouncing_ball_dark_skin_tone"),
    ([0x26F9, 0x1F3FB, 0x200D, 0x2640, 0xFE0F],
      "woman_bouncing_ball_light_skin_tone"),
    ([0x26F9, 0x1F3FE, 0x200D, 0x2640, 0xFE0F],
      "woman_bouncing_ball_medium-dark_skin_tone"),
    ([0x26F9, 0x1F3FC, 0x200D, 0x2640, 0xFE0F],
      "woman_bouncing_ball_medium-light_skin_tone"),
    ([0x26F9, 0x1F3FD, 0x200D, 0x2640, 0xFE0F],
      "woman_bouncing_ball_medium_skin_tone"),
    ([0x1F647, 0x200D, 0x2640, 0xFE0F], "woman_bowing"),
    ([0x1F647, 0x1F3FF, 0x200D, 0x2640, 0xFE0F],
      "woman_bowing_dark_skin_tone"),
    ([0x1F647, 0x1F3FB, 0x200D, 0x2640, 0xFE0F],
      "woman_bowing_light_skin_tone"),
    ([0x1F647, 0x1F3FE, 0x200D, 0x2640, 0xFE0F],
      "woman_bowing_medium-dark_skin_tone"),
    ([0x1F647, 0x1F3FC, 0x200D, 0x2640, 0xFE0F],
      "woman_bowing_medium-light_skin_tone"),
    ([0x1F647, 0x1F3FD, 0x200D, 0x2640, 0xFE0F],
      "woman_bowing_medium_skin_tone"),
    ([0x1F938, 0x200D, 0x2640, 0xFE0F], "woman_cartwheeling"),
    ([0x1F938, 0x1F3FF, 0x200D, 0x2640, 0xFE0F],
      "woman_cartwheeling_dark_skin_tone"),
    ([0x1F938, 0x1F3FB, 0x200D, 0x2640, 0xFE0F],
      "woman_cartwheeling_light_skin_tone"),
    ([0x1F938, 0x1F3FE, 0x200D, 0x2640, 0xFE0F],
      "woman_cartwheeling_medium-dark_skin_tone"),
    ([0x1F938, 0x1F3FC, 0x200D, 0x2640, 0xFE0F],
      "woman_cartwheeling_medium-light_skin_tone"),
    ([0x1F938, 0x1F3FD, 0x200D, 0x2640, 0xFE0F],
      "woman_cartwheeling_medium_skin_tone"),
    ([0x1F9D7, 0x200D, 0x2640, 0xFE0F], "woman_climbing"),
    ([0x1F9D7, 0x1F3FF, 0x200D, 0x2640, 0xFE0F],
      "woman_climbing_dark_skin_tone"),
    ([0x1F9D7, 0x1F3FB, 0x200D, 0x2640, 0xFE0F],
      "woman_climbing_light_skin_tone"),
    ([0x1F9D7, 0x1F3FE, 0x200D, 0x2640, 0xFE0F],
      "woman_climbing_medium-dark_skin_tone"),
    ([0x1F9D7, 0x1F3FC, 0x200D, 0x2640, 0xFE0F],
      "woman_climbing_medium-light_skin_tone"),
    ([0x1F9D7, 0x1F3FD, 0x200D, 0x2640, 0xFE0F],
      "woman_climbing_medium_skin_tone"),
    ([0x1F477, 0x200D, 0x2640, 0xFE0F], "woman_construction_worker"),
    ([0x1F477, 0x1F3FF, 0x200D, 0x2640, 0xFE0F],
      "woman_construction_worker_dark_skin_tone"),
    ([0x1F477, 0x1F3FB, 0x200D, 0x2640, 0xFE0F],
      "woman_construction_worker_light_skin_tone"),
    ([0x1F477, 0x1F3FE, 0x200D, 0x2640, 0xFE0F],
      "woman_construction_worker_medium-dark_skin_tone"),
    ([0x1F477, 0x1F3FC, 0x200D, 0x2640, 0xFE0F],
      "woman_construction_worker_medium-light_skin_tone"),
    ([0x1F477, 0x1F3FD, 0x200D, 0x2640, 0xFE0F],
      "woman_construction_worker_medium_skin_tone"),
    ([0x1F469, 0x200D, 0x1F373], "woman_cook"),
    ([0x1F469, 0x1F3FF, 0x200D, 0x1F373], "woman_cook_dark_skin_tone"),
    ([0x1F469, 0x1F3FB, 0x200D, 0x1F373], "woman_cook_light_skin_tone"),
    ([0x1F469, 0x1F3FE, 0x200D, 0x1F373], "woman_cook_medium-dark_skin_tone"),
    ([0x1F469, 0x1F3FC, 0x200D, 0x1F373], "woman_cook_medium-light_skin_tone"),
    ([0x1F469, 0x1F3FD, 0x200D, 0x1F373], "woman_cook_medium_skin_tone"),
    ([0x1F483], "woman_dancing dancer"),
    ([0x1F483, 0x1F3FF], "woman_dancing_dark_skin_tone"),
    ([0x1F483, 0x1F3FB], "woman_dancing_light_skin_tone"),
    ([0x1F483, 0x1F3FE], "woman_dancing_medium-dark_skin_tone"),
    ([0x1F483, 0x1F3FC], "woman_dancing_medium-light_skin_tone"),
    ([0x1F483, 0x1F3FD], "woman_dancing_medium_skin_tone"),
    ([0x1F469, 0x1F3FF], "woman_dark_skin_tone"),
    ([0x1F575, 0xFE0F, 0x200D, 0x2640, 0xFE0F], "woman_detective"),
    ([0x1F575, 0x1F3FF, 0x200D, 0x2640, 0xFE0F],
      "woman_detective_dark_skin_tone"),
    ([0x1F575, 0x1F3FB, 0x200D, 0x2640, 0xFE0F],
      "woman_detective_light_skin_tone"),
    ([0x1F575, 0x1F3FE, 0x200D, 0x2640, 0xFE0F],
      "woman_detective_medium-dark_skin_tone"),
    ([0x1F575, 0x1F3FC, 0x200D, 0x2640, 0xFE0F],
      "woman_detective_medium-light_skin_tone"),
    ([0x1F575, 0x1F3FD, 0x200D, 0x2640, 0xFE0F],
      "woman_detective_medium_skin_tone"),
    ([0x1F9DD, 0x200D, 0x2640, 0xFE0F], "woman_elf"),
    ([0x1F9DD, 0x1F3FF, 0x200D, 0x2640, 0xFE0F], "woman_elf_dark_skin_tone"),
    ([0x1F9DD, 0x1F3FB, 0x200D, 0x2640, 0xFE0F], "woman_elf_light_skin_tone"),
    ([0x1F9DD, 0x1F3FE, 0x200D, 0x2640, 0xFE0F],
      "woman_elf_medium-dark_skin_tone"),
    ([0x1F9DD, 0x1F3FC, 0x200D, 0x2640, 0xFE0F],
      "woman_elf_medium-light_skin_tone"),
    ([0x1F9DD, 0x1F3FD, 0x200D, 0x2640, 0xFE0F], "woman_elf_medium_skin_tone"),
    ([0x1F926, 0x200D, 0x2640, 0xFE0F], "woman_facepalming"),
    ([0x1F926, 0x1F3FF, 0x200D, 0x2640, 0xFE0F],
      "woman_facepalming_dark_skin_tone"),
    ([0x1F926, 0x1F3FB, 0x200D, 0x2640, 0xFE0F],
      "woman_facepalming_light_skin_tone"),
    ([0x1F926, 0x1F3FE, 0x200D, 0x2640, 0xFE0F],
      "woman_facepalming_medium-dark_skin_tone"),
    ([0x1F926, 0x1F3FC, 0x200D, 0x2640, 0xFE0F],
      "woman_facepalming_medium-light_skin_tone"),
    ([0x1F926, 0x1F3FD, 0x200D, 0x2640, 0xFE0F],
      "woman_facepalming_medium_skin_tone"),
    ([0x1F469, 0x200D, 0x1F3ED], "woman_factory_worker"),
    ([0x1F469, 0x1F3FF, 0x200D, 0x1F3ED],
      "woman_factory_worker_dark_skin_tone"),
    ([0x1F469, 0x1F3FB, 0x200D, 0x1F3ED],
      "woman_factory_worker_light_skin_tone"),
    ([0x1F469, 0x1F3FE, 0x200D, 0x1F3ED],
      "woman_factory_worker_medium-dark_skin_tone"),
    ([0x1F469, 0x1F3FC, 0x200D, 0x1F3ED],
      "woman_factory_worker_medium-light_skin_tone"),
    ([0x1F469, 0x1F3FD, 0x200D, 0x1F3ED],
      "woman_factory_worker_medium_skin_tone"),
    ([0x1F9DA, 0x200D, 0x2640, 0xFE0F], "woman_fairy"),
    ([0x1F9DA, 0x1F3FF, 0x200D, 0x2640, 0xFE0F], "woman_fairy_dark_skin_tone"),
    ([0x1F9DA, 0x1F3FB, 0x200D, 0x2640, 0xFE0F],
      "woman_fairy_light_skin_tone"),
    ([0x1F9DA, 0x1F3FE, 0x200D, 0x2640, 0xFE0F],
      "woman_fairy_medium-dark_skin_tone"),
    ([0x1F9DA, 0x1F3FC, 0x200D, 0x2640, 0xFE0F],
      "woman_fairy_medium-light_skin_tone"),
    ([0x1F9DA, 0x1F3FD, 0x200D, 0x2640, 0xFE0F],
      "woman_fairy_medium_skin_tone"),
    ([0x1F469, 0x200D, 0x1F33E], "woman_farmer"),
    ([0x1F469, 0x1F3FF, 0x200D, 0x1F33E], "woman_farmer_dark_skin_tone"),
    ([0x1F469, 0x1F3FB, 0x200D, 0x1F33E], "woman_farmer_light_skin_tone"),
    ([0x1F469, 0x1F3FE, 0x200D, 0x1F33E],
      "woman_farmer_medium-dark_skin_tone"),
    ([0x1F469, 0x1F3FC, 0x200D, 0x1F33E],
      "woman_farmer_medium-light_skin_tone"),
    ([0x1F469, 0x1F3FD, 0x200D, 0x1F33E], "woman_farmer_medium_skin_tone"),
    ([0x1F469, 0x200D, 0x1F692], "woman_firefighter"),
    ([0x1F469, 0x1F3FF, 0x200D, 0x1F692], "woman_firefighter_dark_skin_tone"),
    ([0x1F469, 0x1F3FB, 0x200D, 0x1F692], "woman_firefighter_light_skin_tone"),
    ([0x1F469, 0x1F3FE, 0x200D, 0x1F692],
      "woman_firefighter_medium-dark_skin_tone"),
    ([0x1F469, 0x1F3FC, 0x200D, 0x1F692],
      "woman_firefighter_medium-light_skin_tone"),
    ([0x1F469, 0x1F3FD, 0x200D, 0x1F692],
      "woman_firefighter_medium_skin_tone"),
    ([0x1F64D, 0x200D, 0x2640, 0xFE0F], "woman_frowning"),
    ([0x1F64D, 0x1F3FF, 0x200D, 0x2640, 0xFE0F],
      "woman_frowning_dark_skin_tone"),
    ([0x1F64D, 0x1F3FB, 0x200D, 0x2640, 0xFE0F],
      "woman_frowning_light_skin_tone"),
    ([0x1F64D, 0x1F3FE, 0x200D, 0x2640, 0xFE0F],
      "woman_frowning_medium-dark_skin_tone"),
    ([0x1F64D, 0x1F3FC, 0x200D, 0x2640, 0xFE0F],
      "woman_frowning_medium-light_skin_tone"),
    ([0x1F64D, 0x1F3FD, 0x200D, 0x2640, 0xFE0F],
      "woman_frowning_medium_skin_tone"),
    ([0x1F9DE, 0x200D, 0x2640, 0xFE0F], "woman_genie"),
    ([0x1F645, 0x200D, 0x2640, 0xFE0F], "woman_gesturing_no"),
    ([0x1F645, 0x1F3FF, 0x200D, 0x2640, 0xFE0F],
      "woman_gesturing_no_dark_skin_tone"),
    ([0x1F645, 0x1F3FB, 0x200D, 0x2640, 0xFE0F],
      "woman_gesturing_no_light_skin_tone"),
    ([0x1F645, 0x1F3FE, 0x200D, 0x2640, 0xFE0F],
      "woman_gesturing_no_medium-dark_skin_tone"),
    ([0x1F645, 0x1F3FC, 0x200D, 0x2640, 0xFE0F],
      "woman_gesturing_no_medium-light_skin_tone"),
    ([0x1F645, 0x1F3FD, 0x200D, 0x2640, 0xFE0F],
      "woman_gesturing_no_medium_skin_tone"),
    ([0x1F646, 0x200D, 0x2640, 0xFE0F], "woman_gesturing_ok"),
    ([0x1F646, 0x1F3FF, 0x200D, 0x2640, 0xFE0F],
      "woman_gesturing_ok_dark_skin_tone"),
    ([0x1F646, 0x1F3FB, 0x200D, 0x2640, 0xFE0F],
      "woman_gesturing_ok_light_skin_tone"),
    ([0x1F646, 0x1F3FE, 0x200D, 0x2640, 0xFE0F],
      "woman_gesturing_ok_medium-dark_skin_tone"),
    ([0x1F646, 0x1F3FC, 0x200D, 0x2640, 0xFE0F],
      "woman_gesturing_ok_medium-light_skin_tone"),
    ([0x1F646, 0x1F3FD, 0x200D, 0x2640, 0xFE0F],
      "woman_gesturing_ok_medium_skin_tone"),
    ([0x1F487, 0x200D, 0x2640, 0xFE0F], "woman_getting_haircut"),
    ([0x1F487, 0x1F3FF, 0x200D, 0x2640, 0xFE0F],
      "woman_getting_haircut_dark_skin_tone"),
    ([0x1F487, 0x1F3FB, 0x200D, 0x2640, 0xFE0F],
      "woman_getting_haircut_light_skin_tone"),
    ([0x1F487, 0x1F3FE, 0x200D, 0x2640, 0xFE0F],
      "woman_getting_haircut_medium-dark_skin_tone"),
    ([0x1F487, 0x1F3FC, 0x200D, 0x2640, 0xFE0F],
      "woman_getting_haircut_medium-light_skin_tone"),
    ([0x1F487, 0x1F3FD, 0x200D, 0x2640, 0xFE0F],
      "woman_getting_haircut_medium_skin_tone"),
    ([0x1F486, 0x200D, 0x2640, 0xFE0F], "woman_getting_massage"),
    ([0x1F486, 0x1F3FF, 0x200D, 0x2640, 0xFE0F],
      "woman_getting_massage_dark_skin_tone"),
    ([0x1F486, 0x1F3FB, 0x200D, 0x2640, 0xFE0F],
      "woman_getting_massage_light_skin_tone"),
    ([0x1F486, 0x1F3FE, 0x200D, 0x2640, 0xFE0F],
      "woman_getting_massage_medium-dark_skin_tone"),
    ([0x1F486, 0x1F3FC, 0x200D, 0x2640, 0xFE0F],
      "woman_getting_massage_medium-light_skin_tone"),
    ([0x1F486, 0x1F3FD, 0x200D, 0x2640, 0xFE0F],
      "woman_getting_massage_medium_skin_tone"),
    ([0x1F3CC, 0xFE0F, 0x200D, 0x2640, 0xFE0F], "woman_golfing"),
    ([0x1F3CC, 0x1F3FF, 0x200D, 0x2640, 0xFE0F],
      "woman_golfing_dark_skin_tone"),
    ([0x1F3CC, 0x1F3FB, 0x200D, 0x2640, 0xFE0F],
      "woman_golfing_light_skin_tone"),
    ([0x1F3CC, 0x1F3FE, 0x200D, 0x2640, 0xFE0F],
      "woman_golfing_medium-dark_skin_tone"),
    ([0x1F3CC, 0x1F3FC, 0x200D, 0x2640, 0xFE0F],
      "woman_golfing_medium-light_skin_tone"),
    ([0x1F3CC, 0x1F3FD, 0x200D, 0x2640, 0xFE0F],
      "woman_golfing_medium_skin_tone"),
    ([0x1F482, 0x200D, 0x2640, 0xFE0F], "woman_guard"),
    ([0x1F482, 0x1F3FF, 0x200D, 0x2640, 0xFE0F], "woman_guard_dark_skin_tone"),
    ([0x1F482, 0x1F3FB, 0x200D, 0x2640, 0xFE0F],
      "woman_guard_light_skin_tone"),
    ([0x1F482, 0x1F3FE, 0x200D, 0x2640, 0xFE0F],
      "woman_guard_medium-dark_skin_tone"),
    ([0x1F482, 0x1F3FC, 0x200D, 0x2640, 0xFE0F],
      "woman_guard_medium-light_skin_tone"),
    ([0x1F482, 0x1F3FD, 0x200D, 0x2640, 0xFE0F],
      "woman_guard_medium_skin_tone"),
    ([0x1F469, 0x200D, 0x2695, 0xFE0F], "woman_health_worker"),
    ([0x1F469, 0x1F3FF, 0x200D, 0x2695, 0xFE0F],
      "woman_health_worker_dark_skin_tone"),
    ([0x1F469, 0x1F3FB, 0x200D, 0x2695, 0xFE0F],
      "woman_health_worker_light_skin_tone"),
    ([0x1F469, 0x1F3FE, 0x200D, 0x2695, 0xFE0F],
      "woman_health_worker_medium-dark_skin_tone"),
    ([0x1F469, 0x1F3FC, 0x200D, 0x2695, 0xFE0F],
      "woman_health_worker_medium-light_skin_tone"),
    ([0x1F469, 0x1F3FD, 0x200D, 0x2695, 0xFE0F],
      "woman_health_worker_medium_skin_tone"),
    ([0x1F9D8, 0x200D, 0x2640, 0xFE0F], "woman_in_lotus_position"),
    ([0x1F9D8, 0x1F3FF, 0x200D, 0x2640, 0xFE0F],
      "woman_in_lotus_position_dark_skin_tone"),
    ([0x1F9D8, 0x1F3FB, 0x200D, 0x2640, 0xFE0F],
      "woman_in_lotus_position_light_skin_tone"),
    ([0x1F9D8, 0x1F3FE, 0x200D, 0x2640, 0xFE0F],
      "woman_in_lotus_position_medium-dark_skin_tone"),
    ([0x1F9D8, 0x1F3FC, 0x200D, 0x2640, 0xFE0F],
      "woman_in_lotus_position_medium-light_skin_tone"),
    ([0x1F9D8, 0x1F3FD, 0x200D, 0x2640, 0xFE0F],
      "woman_in_lotus_position_medium_skin_tone"),
    ([0x1F469, 0x200D, 0x1F9BD], "woman_in_manual_wheelchair"),
    ([0x1F469, 0x200D, 0x1F9BC], "woman_in_motorized_wheelchair"),
    ([0x1F9D6, 0x200D, 0x2640, 0xFE0F], "woman_in_steamy_room"),
    ([0x1F9D6, 0x1F3FF, 0x200D, 0x2640, 0xFE0F],
      "woman_in_steamy_room_dark_skin_tone"),
    ([0x1F9D6, 0x1F3FB, 0x200D, 0x2640, 0xFE0F],
      "woman_in_steamy_room_light_skin_tone"),
    ([0x1F9D6, 0x1F3FE, 0x200D, 0x2640, 0xFE0F],
      "woman_in_steamy_room_medium-dark_skin_tone"),
    ([0x1F9D6, 0x1F3FC, 0x200D, 0x2640, 0xFE0F],
      "woman_in_steamy_room_medium-light_skin_tone"),
    ([0x1F9D6, 0x1F3FD, 0x200D, 0x2640, 0xFE0F],
      "woman_in_steamy_room_medium_skin_tone"),
    ([0x1F469, 0x200D, 0x2696, 0xFE0F], "woman_judge"),
    ([0x1F469, 0x1F3FF, 0x200D, 0x2696, 0xFE0F], "woman_judge_dark_skin_tone"),
    ([0x1F469, 0x1F3FB, 0x200D, 0x2696, 0xFE0F],
      "woman_judge_light_skin_tone"),
    ([0x1F469, 0x1F3FE, 0x200D, 0x2696, 0xFE0F],
      "woman_judge_medium-dark_skin_tone"),
    ([0x1F469, 0x1F3FC, 0x200D, 0x2696, 0xFE0F],
      "woman_judge_medium-light_skin_tone"),
    ([0x1F469, 0x1F3FD, 0x200D, 0x2696, 0xFE0F],
      "woman_judge_medium_skin_tone"),
    ([0x1F939, 0x200D, 0x2640, 0xFE0F], "woman_juggling"),
    ([0x1F939, 0x1F3FF, 0x200D, 0x2640, 0xFE0F],
      "woman_juggling_dark_skin_tone"),
    ([0x1F939, 0x1F3FB, 0x200D, 0x2640, 0xFE0F],
      "woman_juggling_light_skin_tone"),
    ([0x1F939, 0x1F3FE, 0x200D, 0x2640, 0xFE0F],
      "woman_juggling_medium-dark_skin_tone"),
    ([0x1F939, 0x1F3FC, 0x200D, 0x2640, 0xFE0F],
      "woman_juggling_medium-light_skin_tone"),
    ([0x1F939, 0x1F3FD, 0x200D, 0x2640, 0xFE0F],
      "woman_juggling_medium_skin_tone"),
    ([0x1F3CB, 0xFE0F, 0x200D, 0x2640, 0xFE0F], "woman_lifting_weights"),
    ([0x1F3CB, 0x1F3FF, 0x200D, 0x2640, 0xFE0F],
      "woman_lifting_weights_dark_skin_tone"),
    ([0x1F3CB, 0x1F3FB, 0x200D, 0x2640, 0xFE0F],
      "woman_lifting_weights_light_skin_tone"),
    ([0x1F3CB, 0x1F3FE, 0x200D, 0x2640, 0xFE0F],
      "woman_lifting_weights_medium-dark_skin_tone"),
    ([0x1F3CB, 0x1F3FC, 0x200D, 0x2640, 0xFE0F],
      "woman_lifting_weights_medium-light_skin_tone"),
    ([0x1F3CB, 0x1F3FD, 0x200D, 0x2640, 0xFE0F],
      "woman_lifting_weights_medium_skin_tone"),
    ([0x1F469, 0x1F3FB], "woman_light_skin_tone"),
    ([0x1F9D9, 0x200D, 0x2640, 0xFE0F], "woman_mage"),
    ([0x1F9D9, 0x1F3FF, 0x200D, 0x2640, 0xFE0F], "woman_mage_dark_skin_tone"),
    ([0x1F9D9, 0x1F3FB, 0x200D, 0x2640, 0xFE0F], "woman_mage_light_skin_tone"),
    ([0x1F9D9, 0x1F3FE, 0x200D, 0x2640, 0xFE0F],
      "woman_mage_medium-dark_skin_tone"),
    ([0x1F9D9, 0x1F3FC, 0x200D, 0x2640, 0xFE0F],
      "woman_mage_medium-light_skin_tone"),
    ([0x1F9D9, 0x1F3FD, 0x200D, 0x2640, 0xFE0F],
      "woman_mage_medium_skin_tone"),
    ([0x1F469, 0x200D, 0x1F527], "woman_mechanic"),
    ([0x1F469, 0x1F3FF, 0x200D, 0x1F527], "woman_mechanic_dark_skin_tone"),
    ([0x1F469, 0x1F3FB, 0x200D, 0x1F527], "woman_mechanic_light_skin_tone"),
    ([0x1F469, 0x1F3FE, 0x200D, 0x1F527],
      "woman_mechanic_medium-dark_skin_tone"),
    ([0x1F469, 0x1F3FC, 0x200D, 0x1F527],
      "woman_mechanic_medium-light_skin_tone"),
    ([0x1F469, 0x1F3FD, 0x200D, 0x1F527], "woman_mechanic_medium_skin_tone"),
    ([0x1F469, 0x1F3FE], "woman_medium-dark_skin_tone"),
    ([0x1F469, 0x1F3FC], "woman_medium-light_skin_tone"),
    ([0x1F469, 0x1F3FD], "woman_medium_skin_tone"),
    ([0x1F6B5, 0x200D, 0x2640, 0xFE0F], "woman_mountain_biking"),
    ([0x1F6B5, 0x1F3FF, 0x200D, 0x2640, 0xFE0F],
      "woman_mountain_biking_dark_skin_tone"),
    ([0x1F6B5, 0x1F3FB, 0x200D, 0x2640, 0xFE0F],
      "woman_mountain_biking_light_skin_tone"),
    ([0x1F6B5, 0x1F3FE, 0x200D, 0x2640, 0xFE0F],
      "woman_mountain_biking_medium-dark_skin_tone"),
    ([0x1F6B5, 0x1F3FC, 0x200D, 0x2640, 0xFE0F],
      "woman_mountain_biking_medium-light_skin_tone"),
    ([0x1F6B5, 0x1F3FD, 0x200D, 0x2640, 0xFE0F],
      "woman_mountain_biking_medium_skin_tone"),
    ([0x1F469, 0x200D, 0x1F4BC], "woman_office_worker"),
    ([0x1F469, 0x1F3FF, 0x200D, 0x1F4BC],
      "woman_office_worker_dark_skin_tone"),
    ([0x1F469, 0x1F3FB, 0x200D, 0x1F4BC],
      "woman_office_worker_light_skin_tone"),
    ([0x1F469, 0x1F3FE, 0x200D, 0x1F4BC],
      "woman_office_worker_medium-dark_skin_tone"),
    ([0x1F469, 0x1F3FC, 0x200D, 0x1F4BC],
      "woman_office_worker_medium-light_skin_tone"),
    ([0x1F469, 0x1F3FD, 0x200D, 0x1F4BC],
      "woman_office_worker_medium_skin_tone"),
    ([0x1F469, 0x200D, 0x2708, 0xFE0F], "woman_pilot"),
    ([0x1F469, 0x1F3FF, 0x200D, 0x2708, 0xFE0F], "woman_pilot_dark_skin_tone"),
    ([0x1F469, 0x1F3FB, 0x200D, 0x2708, 0xFE0F],
      "woman_pilot_light_skin_tone"),
    ([0x1F469, 0x1F3FE, 0x200D, 0x2708, 0xFE0F],
      "woman_pilot_medium-dark_skin_tone"),
    ([0x1F469, 0x1F3FC, 0x200D, 0x2708, 0xFE0F],
      "woman_pilot_medium-light_skin_tone"),
    ([0x1F469, 0x1F3FD, 0x200D, 0x2708, 0xFE0F],
      "woman_pilot_medium_skin_tone"),
    ([0x1F93E, 0x200D, 0x2640, 0xFE0F], "woman_playing_handball"),
    ([0x1F93E, 0x1F3FF, 0x200D, 0x2640, 0xFE0F],
      "woman_playing_handball_dark_skin_tone"),
    ([0x1F93E, 0x1F3FB, 0x200D, 0x2640, 0xFE0F],
      "woman_playing_handball_light_skin_tone"),
    ([0x1F93E, 0x1F3FE, 0x200D, 0x2640, 0xFE0F],
      "woman_playing_handball_medium-dark_skin_tone"),
    ([0x1F93E, 0x1F3FC, 0x200D, 0x2640, 0xFE0F],
      "woman_playing_handball_medium-light_skin_tone"),
    ([0x1F93E, 0x1F3FD, 0x200D, 0x2640, 0xFE0F],
      "woman_playing_handball_medium_skin_tone"),
    ([0x1F93D, 0x200D, 0x2640, 0xFE0F], "woman_playing_water_polo"),
    ([0x1F93D, 0x1F3FF, 0x200D, 0x2640, 0xFE0F],
      "woman_playing_water_polo_dark_skin_tone"),
    ([0x1F93D, 0x1F3FB, 0x200D, 0x2640, 0xFE0F],
      "woman_playing_water_polo_light_skin_tone"),
    ([0x1F93D, 0x1F3FE, 0x200D, 0x2640, 0xFE0F],
      "woman_playing_water_polo_medium-dark_skin_tone"),
    ([0x1F93D, 0x1F3FC, 0x200D, 0x2640, 0xFE0F],
      "woman_playing_water_polo_medium-light_skin_tone"),
    ([0x1F93D, 0x1F3FD, 0x200D, 0x2640, 0xFE0F],
      "woman_playing_water_polo_medium_skin_tone"),
    ([0x1F46E, 0x200D, 0x2640, 0xFE0F], "woman_police_officer"),
    ([0x1F46E, 0x1F3FF, 0x200D, 0x2640, 0xFE0F],
      "woman_police_officer_dark_skin_tone"),
    ([0x1F46E, 0x1F3FB, 0x200D, 0x2640, 0xFE0F],
      "woman_police_officer_light_skin_tone"),
    ([0x1F46E, 0x1F3FE, 0x200D, 0x2640, 0xFE0F],
      "woman_police_officer_medium-dark_skin_tone"),
    ([0x1F46E, 0x1F3FC, 0x200D, 0x2640, 0xFE0F],
      "woman_police_officer_medium-light_skin_tone"),
    ([0x1F46E, 0x1F3FD, 0x200D, 0x2640, 0xFE0F],
      "woman_police_officer_medium_skin_tone"),
    ([0x1F64E, 0x200D, 0x2640, 0xFE0F], "woman_pouting"),
    ([0x1F64E, 0x1F3FF, 0x200D, 0x2640, 0xFE0F],
      "woman_pouting_dark_skin_tone"),
    ([0x1F64E, 0x1F3FB, 0x200D, 0x2640, 0xFE0F],
      "woman_pouting_light_skin_tone"),
    ([0x1F64E, 0x1F3FE, 0x200D, 0x2640, 0xFE0F],
      "woman_pouting_medium-dark_skin_tone"),
    ([0x1F64E, 0x1F3FC, 0x200D, 0x2640, 0xFE0F],
      "woman_pouting_medium-light_skin_tone"),
    ([0x1F64E, 0x1F3FD, 0x200D, 0x2640, 0xFE0F],
      "woman_pouting_medium_skin_tone"),
    ([0x1F64B, 0x200D, 0x2640, 0xFE0F], "woman_raising_hand"),
    ([0x1F64B, 0x1F3FF, 0x200D, 0x2640, 0xFE0F],
      "woman_raising_hand_dark_skin_tone"),
    ([0x1F64B, 0x1F3FB, 0x200D, 0x2640, 0xFE0F],
      "woman_raising_hand_light_skin_tone"),
    ([0x1F64B, 0x1F3FE, 0x200D, 0x2640, 0xFE0F],
      "woman_raising_hand_medium-dark_skin_tone"),
    ([0x1F64B, 0x1F3FC, 0x200D, 0x2640, 0xFE0F],
      "woman_raising_hand_medium-light_skin_tone"),
    ([0x1F64B, 0x1F3FD, 0x200D, 0x2640, 0xFE0F],
      "woman_raising_hand_medium_skin_tone"),
    ([0x1F6A3, 0x200D, 0x2640, 0xFE0F], "woman_rowing_boat"),
    ([0x1F6A3, 0x1F3FF, 0x200D, 0x2640, 0xFE0F],
      "woman_rowing_boat_dark_skin_tone"),
    ([0x1F6A3, 0x1F3FB, 0x200D, 0x2640, 0xFE0F],
      "woman_rowing_boat_light_skin_tone"),
    ([0x1F6A3, 0x1F3FE, 0x200D, 0x2640, 0xFE0F],
      "woman_rowing_boat_medium-dark_skin_tone"),
    ([0x1F6A3, 0x1F3FC, 0x200D, 0x2640, 0xFE0F],
      "woman_rowing_boat_medium-light_skin_tone"),
    ([0x1F6A3, 0x1F3FD, 0x200D, 0x2640, 0xFE0F],
      "woman_rowing_boat_medium_skin_tone"),
    ([0x1F3C3, 0x200D, 0x2640, 0xFE0F], "woman_running"),
    ([0x1F3C3, 0x1F3FF, 0x200D, 0x2640, 0xFE0F],
      "woman_running_dark_skin_tone"),
    ([0x1F3C3, 0x1F3FB, 0x200D, 0x2640, 0xFE0F],
      "woman_running_light_skin_tone"),
    ([0x1F3C3, 0x1F3FE, 0x200D, 0x2640, 0xFE0F],
      "woman_running_medium-dark_skin_tone"),
    ([0x1F3C3, 0x1F3FC, 0x200D, 0x2640, 0xFE0F],
      "woman_running_medium-light_skin_tone"),
    ([0x1F3C3, 0x1F3FD, 0x200D, 0x2640, 0xFE0F],
      "woman_running_medium_skin_tone"),
    ([0x1F469, 0x200D, 0x1F52C], "woman_scientist"),
    ([0x1F469, 0x1F3FF, 0x200D, 0x1F52C], "woman_scientist_dark_skin_tone"),
    ([0x1F469, 0x1F3FB, 0x200D, 0x1F52C], "woman_scientist_light_skin_tone"),
    ([0x1F469, 0x1F3FE, 0x200D, 0x1F52C],
      "woman_scientist_medium-dark_skin_tone"),
    ([0x1F469, 0x1F3FC, 0x200D, 0x1F52C],
      "woman_scientist_medium-light_skin_tone"),
    ([0x1F469, 0x1F3FD, 0x200D, 0x1F52C], "woman_scientist_medium_skin_tone"),
    ([0x1F937, 0x200D, 0x2640, 0xFE0F], "woman_shrugging"),
    ([0x1F937, 0x1F3FF, 0x200D, 0x2640, 0xFE0F],
      "woman_shrugging_dark_skin_tone"),
    ([0x1F937, 0x1F3FB, 0x200D, 0x2640, 0xFE0F],
      "woman_shrugging_light_skin_tone"),
    ([0x1F937, 0x1F3FE, 0x200D, 0x2640, 0xFE0F],
      "woman_shrugging_medium-dark_skin_tone"),
    ([0x1F937, 0x1F3FC, 0x200D, 0x2640, 0xFE0F],
      "woman_shrugging_medium-light_skin_tone"),
    ([0x1F937, 0x1F3FD, 0x200D, 0x2640, 0xFE0F],
      "woman_shrugging_medium_skin_tone"),
    ([0x1F469, 0x200D, 0x1F3A4], "woman_singer"),
    ([0x1F469, 0x1F3FF, 0x200D, 0x1F3A4], "woman_singer_dark_skin_tone"),
    ([0x1F469, 0x1F3FB, 0x200D, 0x1F3A4], "woman_singer_light_skin_tone"),
    ([0x1F469, 0x1F3FE, 0x200D, 0x1F3A4],
      "woman_singer_medium-dark_skin_tone"),
    ([0x1F469, 0x1F3FC, 0x200D, 0x1F3A4],
      "woman_singer_medium-light_skin_tone"),
    ([0x1F469, 0x1F3FD, 0x200D, 0x1F3A4], "woman_singer_medium_skin_tone"),
    ([0x1F469, 0x200D, 0x1F393], "woman_student"),
    ([0x1F469, 0x1F3FF, 0x200D, 0x1F393], "woman_student_dark_skin_tone"),
    ([0x1F469, 0x1F3FB, 0x200D, 0x1F393], "woman_student_light_skin_tone"),
    ([0x1F469, 0x1F3FE, 0x200D, 0x1F393],
      "woman_student_medium-dark_skin_tone"),
    ([0x1F469, 0x1F3FC, 0x200D, 0x1F393],
      "woman_student_medium-light_skin_tone"),
    ([0x1F469, 0x1F3FD, 0x200D, 0x1F393], "woman_student_medium_skin_tone"),
    ([0x1F3C4, 0x200D, 0x2640, 0xFE0F], "woman_surfing"),
    ([0x1F3C4, 0x1F3FF, 0x200D, 0x2640, 0xFE0F],
      "woman_surfing_dark_skin_tone"),
    ([0x1F3C4, 0x1F3FB, 0x200D, 0x2640, 0xFE0F],
      "woman_surfing_light_skin_tone"),
    ([0x1F3C4, 0x1F3FE, 0x200D, 0x2640, 0xFE0F],
      "woman_surfing_medium-dark_skin_tone"),
    ([0x1F3C4, 0x1F3FC, 0x200D, 0x2640, 0xFE0F],
      "woman_surfing_medium-light_skin_tone"),
    ([0x1F3C4, 0x1F3FD, 0x200D, 0x2640, 0xFE0F],
      "woman_surfing_medium_skin_tone"),
    ([0x1F3CA, 0x200D, 0x2640, 0xFE0F], "woman_swimming"),
    ([0x1F3CA, 0x1F3FF, 0x200D, 0x2640, 0xFE0F],
      "woman_swimming_dark_skin_tone"),
    ([0x1F3CA, 0x1F3FB, 0x200D, 0x2640, 0xFE0F],
      "woman_swimming_light_skin_tone"),
    ([0x1F3CA, 0x1F3FE, 0x200D, 0x2640, 0xFE0F],
      "woman_swimming_medium-dark_skin_tone"),
    ([0x1F3CA, 0x1F3FC, 0x200D, 0x2640, 0xFE0F],
      "woman_swimming_medium-light_skin_tone"),
    ([0x1F3CA, 0x1F3FD, 0x200D, 0x2640, 0xFE0F],
      "woman_swimming_medium_skin_tone"),
    ([0x1F469, 0x200D, 0x1F3EB], "woman_teacher"),
    ([0x1F469, 0x1F3FF, 0x200D, 0x1F3EB], "woman_teacher_dark_skin_tone"),
    ([0x1F469, 0x1F3FB, 0x200D, 0x1F3EB], "woman_teacher_light_skin_tone"),
    ([0x1F469, 0x1F3FE, 0x200D, 0x1F3EB],
      "woman_teacher_medium-dark_skin_tone"),
    ([0x1F469, 0x1F3FC, 0x200D, 0x1F3EB],
      "woman_teacher_medium-light_skin_tone"),
    ([0x1F469, 0x1F3FD, 0x200D, 0x1F3EB], "woman_teacher_medium_skin_tone"),
    ([0x1F469, 0x200D, 0x1F4BB], "woman_technologist"),
    ([0x1F469, 0x1F3FF, 0x200D, 0x1F4BB], "woman_technologist_dark_skin_tone"),
    ([0x1F469, 0x1F3FB, 0x200D, 0x1F4BB],
      "woman_technologist_light_skin_tone"),
    ([0x1F469, 0x1F3FE, 0x200D, 0x1F4BB],
      "woman_technologist_medium-dark_skin_tone"),
    ([0x1F469, 0x1F3FC, 0x200D, 0x1F4BB],
      "woman_technologist_medium-light_skin_tone"),
    ([0x1F469, 0x1F3FD, 0x200D, 0x1F4BB],
      "woman_technologist_medium_skin_tone"),
    ([0x1F481, 0x200D, 0x2640, 0xFE0F], "woman_tipping_hand"),
    ([0x1F481, 0x1F3FF, 0x200D, 0x2640, 0xFE0F],
      "woman_tipping_hand_dark_skin_tone"),
    ([0x1F481, 0x1F3FB, 0x200D, 0x2640, 0xFE0F],
      "woman_tipping_hand_light_skin_tone"),
    ([0x1F481, 0x1F3FE, 0x200D, 0x2640, 0xFE0F],
      "woman_tipping_hand_medium-dark_skin_tone"),
    ([0x1F481, 0x1F3FC, 0x200D, 0x2640, 0xFE0F],
      "woman_tipping_hand_medium-light_skin_tone"),
    ([0x1F481, 0x1F3FD, 0x200D, 0x2640, 0xFE0F],
      "woman_tipping_hand_medium_skin_tone"),
    ([0x1F9DB, 0x200D, 0x2640, 0xFE0F], "woman_vampire"),
    ([0x1F9DB, 0x1F3FF, 0x200D, 0x2640, 0xFE0F],
      "woman_vampire_dark_skin_tone"),
    ([0x1F9DB, 0x1F3FB, 0x200D, 0x2640, 0xFE0F],
      "woman_vampire_light_skin_tone"),
    ([0x1F9DB, 0x1F3FE, 0x200D, 0x2640, 0xFE0F],
      "woman_vampire_medium-dark_skin_tone"),
    ([0x1F9DB, 0x1F3FC, 0x200D, 0x2640, 0xFE0F],
      "woman_vampire_medium-light_skin_tone"),
    ([0x1F9DB, 0x1F3FD, 0x200D, 0x2640, 0xFE0F],
      "woman_vampire_medium_skin_tone"),
    ([0x1F6B6, 0x200D, 0x2640, 0xFE0F], "woman_walking"),
    ([0x1F6B6, 0x1F3FF, 0x200D, 0x2640, 0xFE0F],
      "woman_walking_dark_skin_tone"),
    ([0x1F6B6, 0x1F3FB, 0x200D, 0x2640, 0xFE0F],
      "woman_walking_light_skin_tone"),
    ([0x1F6B6, 0x1F3FE, 0x200D, 0x2640, 0xFE0F],
      "woman_walking_medium-dark_skin_tone"),
    ([0x1F6B6, 0x1F3FC, 0x200D, 0x2640, 0xFE0F],
      "woman_walking_medium-light_skin_tone"),
    ([0x1F6B6, 0x1F3FD, 0x200D, 0x2640, 0xFE0F],
      "woman_walking_medium_skin_tone"),
    ([0x1F473, 0x200D, 0x2640, 0xFE0F], "woman_wearing_turban"),
    ([0x1F473, 0x1F3FF, 0x200D, 0x2640, 0xFE0F],
      "woman_wearing_turban_dark_skin_tone"),
    ([0x1F473, 0x1F3FB, 0x200D, 0x2640, 0xFE0F],
      "woman_wearing_turban_light_skin_tone"),
    ([0x1F473, 0x1F3FE, 0x200D, 0x2640, 0xFE0F],
      "woman_wearing_turban_medium-dark_skin_tone"),
    ([0x1F473, 0x1F3FC, 0x200D, 0x2640, 0xFE0F],
      "woman_wearing_turban_medium-light_skin_tone"),
    ([0x1F473, 0x1F3FD, 0x200D, 0x2640, 0xFE0F],
      "woman_wearing_turban_medium_skin_tone"),
    ([0x1F9D5], "woman_with_headscarf"),
    ([0x1F9D5, 0x1F3FF], "woman_with_headscarf_dark_skin_tone"),
    ([0x1F9D5, 0x1F3FB], "woman_with_headscarf_light_skin_tone"),
    ([0x1F9D5, 0x1F3FE], "woman_with_headscarf_medium-dark_skin_tone"),
    ([0x1F9D5, 0x1F3FC], "woman_with_headscarf_medium-light_skin_tone"),
    ([0x1F9D5, 0x1F3FD], "woman_with_headscarf_medium_skin_tone"),
    ([0x1F469, 0x200D, 0x1F9AF], "woman_with_probing_cane"),
    ([0x1F9DF, 0x200D, 0x2640, 0xFE0F], "woman_zombie"),
    ([0x1F462], "woman’s_boot boot"),
    ([0x1F45A], "woman’s_clothes womans_clothes"),
    ([0x1F452], "woman’s_hat womans_hat"),
    ([0x1F461], "woman’s_sandal sandal"),
    ([0x1F46F, 0x200D, 0x2640, 0xFE0F], "women_with_bunny_ears"),
    ([0x1F93C, 0x200D, 0x2640, 0xFE0F], "women_wrestling"),
    ([0x1F6BA], "women’s_room womens"), ([0x1F974], "woozy_face"),
    ([0x1F5FA], "world_map"), ([0x1F61F], "worried_face worried"),
    ([0x1F381], "wrapped_gift gift"), ([0x1F527], "wrench"),
    ([0x270D], "writing_hand"),
    ([0x270D, 0x1F3FF], "writing_hand_dark_skin_tone"),
    ([0x270D, 0x1F3FB], "writing_hand_light_skin_tone"),
    ([0x270D, 0x1F3FE], "writing_hand_medium-dark_skin_tone"),
    ([0x270D, 0x1F3FC], "writing_hand_medium-light_skin_tone"),
    ([0x270D, 0x1F3FD], "writing_hand_medium_skin_tone"), ([0x1F9F6], "yarn"),
    ([0x1F971], "yawning_face"), ([0x1F7E1], "yellow_circle"),
    ([0x1F49B], "yellow_heart"), ([0x1F7E8], "yellow_square"),
    ([0x1F4B4], "yen_banknote yen"), ([0x1FA80], "yo-yo"),
    ([0x262F], "yin_yang"), ([0x1F92A], "zany_face"), ([0x1F993], "zebra"),
    ([0x1F910], "zipper-mouth_face zipper__mouth_face"), ([0x1F9DF], "zombie"),
    ([0x1F4A4], "zzz"),
    ([0x1F1E6, 0x1F1FD], "åland_islands flag_for_åland_islands"),
    ([0x2A, 0x20E3], "keycap_asterisk"),
    ([0x38, 0x20E3], "keycap_digit_eight"),
    ([0x35, 0x20E3], "keycap_digit_five"),
    ([0x34, 0x20E3], "keycap_digit_four"),
    ([0x39, 0x20E3], "keycap_digit_nine"),
    ([0x31, 0x20E3], "keycap_digit_one"),
    ([0x37, 0x20E3], "keycap_digit_seven"),
    ([0x36, 0x20E3], "keycap_digit_six"),
    ([0x33, 0x20E3], "keycap_digit_three"),
    ([0x32, 0x20E3], "keycap_digit_two"),
    ([0x30, 0x20E3], "keycap_digit_zero"),
    ([0x23, 0x20E3], "keycap_number_sign"),
    ([0x1F3FB], "light_skin_tone emoji_modifier_fitzpatrick_type__1__2"),
    ([0x1F3FC], "medium_light_skin_tone emoji_modifier_fitzpatrick_type__3"),
    ([0x1F3FD], "medium_skin_tone emoji_modifier_fitzpatrick_type__4"),
    ([0x1F3FE], "medium_dark_skin_tone emoji_modifier_fitzpatrick_type__5"),
    ([0x1F3FF], "dark_skin_tone emoji_modifier_fitzpatrick_type__6"),
    ([0x1F1E6], "regional_indicator_symbol_letter_a regional_indicator_a"),
    ([0x1F1E7], "regional_indicator_symbol_letter_b regional_indicator_b"),
    ([0x1F1E8], "regional_indicator_symbol_letter_c regional_indicator_c"),
    ([0x1F1E9], "regional_indicator_symbol_letter_d regional_indicator_d"),
    ([0x1F1EA], "regional_indicator_symbol_letter_e regional_indicator_e"),
    ([0x1F1EB], "regional_indicator_symbol_letter_f regional_indicator_f"),
    ([0x1F1EC], "regional_indicator_symbol_letter_g regional_indicator_g"),
    ([0x1F1ED], "regional_indicator_symbol_letter_h regional_indicator_h"),
    ([0x1F1EE], "regional_indicator_symbol_letter_i regional_indicator_i"),
    ([0x1F1EF], "regional_indicator_symbol_letter_j regional_indicator_j"),
    ([0x1F1F0], "regional_indicator_symbol_letter_k regional_indicator_k"),
    ([0x1F1F1], "regional_indicator_symbol_letter_l regional_indicator_l"),
    ([0x1F1F2], "regional_indicator_symbol_letter_m regional_indicator_m"),
    ([0x1F1F3], "regional_indicator_symbol_letter_n regional_indicator_n"),
    ([0x1F1F4], "regional_indicator_symbol_letter_o regional_indicator_o"),
    ([0x1F1F5], "regional_indicator_symbol_letter_p regional_indicator_p"),
    ([0x1F1F6], "regional_indicator_symbol_letter_q regional_indicator_q"),
    ([0x1F1F7], "regional_indicator_symbol_letter_r regional_indicator_r"),
    ([0x1F1F8], "regional_indicator_symbol_letter_s regional_indicator_s"),
    ([0x1F1F9], "regional_indicator_symbol_letter_t regional_indicator_t"),
    ([0x1F1FA], "regional_indicator_symbol_letter_u regional_indicator_u"),
    ([0x1F1FB], "regional_indicator_symbol_letter_v regional_indicator_v"),
    ([0x1F1FC], "regional_indicator_symbol_letter_w regional_indicator_w"),
    ([0x1F1FD], "regional_indicator_symbol_letter_x regional_indicator_x"),
    ([0x1F1FE], "regional_indicator_symbol_letter_y regional_indicator_y"),
    ([0x1F1FF], "regional_indicator_symbol_letter_z regional_indicator_z"),
    ([0x1F4C5], "date"), ([0x1F408], "cat2"), ([0x1F404], "cow2"),
    ([0x1F576], "dark_sunglasses"), ([0x1F415], "dog2"),
    ([0x1F42A], "dromedary_camel"), ([0x1F3E4], "european_post_office"),
    ([0x1F1EF, 0x1F1F5], "flag_for_japan"),
    ([0x1F1F9, 0x1F1F7], "flag_for_turkey"), ([0x2388], "helm_symbol"),
    ([0x1F40E], "racehorse"), ([0x1F48F], "couplekiss"), ([0x1F401], "mouse2"),
    ([0x270F], "pencil2"), ([0x1F416], "pig2"), ([0x1F407], "rabbit2"),
    ([0x1F405], "tiger2"), ([0x1F686], "train2"), ([0x1F40B], "whale2") ]

/-- The rows of all pictographs. -/
def rows : List (List Nat × String) := rowsA ++ rowsB ++ rowsC ++ rowsD

/-- The names of a row, each with the pictograph. -/
def entriesOf (row : List Nat × String) : Assoc Text :=
  (Text.splitOn (.scalar ' ') row.2).map fun name =>
    (name, row.1.map CodePoint.ofNat)

/-- The names with their pictographs. -/
def names : Assoc Text := rows.flatMap entriesOf

end Marginalia.Emoji
